import DefUse.Digest.Sha256

/-!
# Fingerprints of files

Files are framed by their lengths before they are hashed, so that moving bytes from one file to the
next changes what is hashed.
-/

namespace DefUse.Digest

/-- The length of a content in eight bytes, and the content. -/
def frame (content : List UInt8) : List UInt8 := littleEndian 8 content.length ++ content

def frames (contents : List (List UInt8)) : List UInt8 := contents.flatMap frame

def hexByte (byte : UInt8) : List Char :=
  [Nat.digitChar (byte.toNat / 16), Nat.digitChar (byte.toNat % 16)]

/-- The fingerprint of contents in order, in lower-case digits of base sixteen. -/
def fingerprint (contents : List (List UInt8)) : String :=
  String.ofList ((sha256 (frames contents)).flatMap hexByte)

end DefUse.Digest
