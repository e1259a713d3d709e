import DefUse.Proofs.FailingStages
import Mathlib.Data.Nat.Digits.Defs

/-!
# Framed files

A fingerprint hashes files as one stream, in which every content stands behind its length. A content may hold
anything, also what looks like a length, but a stream is read from its start, and each length tells where the
next one stands. The main statement is that a stream comes from one list of contents only, so that equal
fingerprints of different contents are a collision of the hash; and that there is no fingerprint if a file
cannot be read, but the problem of the first such file.
-/

namespace DefUse

namespace Digest

/-! ## Streams -/

/-- The stream holds the contents in order, each behind its length in eight bytes, lowest byte first. -/
inductive Framed : List (List UInt8) → List UInt8 → Prop where
  | nil : Framed [] []
  | cons {header content stream : List UInt8} {contents : List (List UInt8)} (hwidth : header.length = 8)
      (hlength : Nat.ofDigits 256 (header.map UInt8.toNat) = content.length) (h : Framed contents stream) :
      Framed (content :: contents) (header ++ (content ++ stream))

/-- Even an empty content has a header. -/
theorem Framed.eq_nil {contents : List (List UInt8)} {stream : List UInt8} (h : Framed contents stream)
    (hempty : stream = []) : contents = [] := by
  cases h with
  | nil => rfl
  | cons hwidth =>
    have hlength := congrArg List.length hempty
    simp only [List.length_nil, List.length_append] at hlength
    omega

/-- A stream holds one list of contents only. -/
theorem Framed.contents_eq {contents others : List (List UInt8)} {stream : List UInt8}
    (h : Framed contents stream) (hother : Framed others stream) : contents = others := by
  induction h generalizing others with
  | nil => exact (hother.eq_nil rfl).symm
  | @cons header content stream contents hwidth hlength hframed ih =>
    generalize hstream : header ++ (content ++ stream) = joined at hother
    cases hother with
    | nil => exact (Framed.cons hwidth hlength hframed).eq_nil hstream
    | @cons header' content' stream' contents' hwidth' hlength' hothers =>
      -- Headers have one width, and then contents have the length that the header says.
      obtain ⟨hheader, hbehind⟩ := List.append_inj hstream (hwidth.trans hwidth'.symm)
      have hsame : content.length = content'.length :=
        calc content.length = Nat.ofDigits 256 (header.map UInt8.toNat) := hlength.symm
          _ = Nat.ofDigits 256 (header'.map UInt8.toNat) := by rw [hheader]
          _ = content'.length := hlength'
      obtain ⟨hcontent, hrest⟩ := List.append_inj hbehind hsame
      rw [← hrest] at hothers
      rw [hcontent, ih hothers]

theorem length_littleEndian (width value : Nat) : (littleEndian width value).length = width := by
  induction width generalizing value with
  | zero => rfl
  | succ width ih => rw [littleEndian, List.length_cons, ih]

/-- The bytes of a number are its digits, as far as the width goes. -/
theorem ofDigits_littleEndian (width value : Nat) :
    Nat.ofDigits 256 ((littleEndian width value).map UInt8.toNat) = value % 256 ^ width := by
  induction width generalizing value with
  | zero => rw [littleEndian, List.map_nil, Nat.ofDigits_nil, Nat.pow_zero, Nat.mod_one]
  | succ width ih =>
    have hbyte : (UInt8.ofNat (value % 256)).toNat = value % 256 :=
      UInt8.toNat_ofNat_of_lt' (Nat.mod_lt value (by decide))
    calc Nat.ofDigits 256 ((littleEndian (width + 1) value).map UInt8.toNat)
        = value % 256 + 256 * (value / 256 % 256 ^ width) := by
          rw [littleEndian, List.map_cons, Nat.ofDigits_cons, hbyte, ih]
      _ = value % 256 ^ (width + 1) := by rw [Nat.pow_succ, Nat.mul_comm (256 ^ width), Nat.mod_mul]

/-- Contents that eight bytes can count are framed. -/
theorem framed_frames {contents : List (List UInt8)} (h : ∀ content ∈ contents, content.length < 2 ^ 64) :
    Framed contents (frames contents) := by
  induction contents with
  | nil => exact .nil
  | cons content contents ih =>
    rw [List.forall_mem_cons] at h
    have hlength : Nat.ofDigits 256 ((littleEndian 8 content.length).map UInt8.toNat) = content.length :=
      calc Nat.ofDigits 256 ((littleEndian 8 content.length).map UInt8.toNat)
          = content.length % 2 ^ 64 := ofDigits_littleEndian 8 content.length
        _ = content.length := Nat.mod_eq_of_lt h.1
    have hframed := Framed.cons (length_littleEndian 8 content.length) hlength (ih h.2)
    rwa [← List.append_assoc] at hframed

theorem frames_eq_iff {contents others : List (List UInt8)}
    (hcontents : ∀ content ∈ contents, content.length < 2 ^ 64)
    (hothers : ∀ content ∈ others, content.length < 2 ^ 64) :
    frames contents = frames others ↔ contents = others := by
  constructor
  · intro h
    have hframed := framed_frames hothers
    rw [← h] at hframed
    exact (framed_frames hcontents).contents_eq hframed
  · exact congrArg frames

/-! ## Digests -/

/-- Different messages with the same hash. -/
def Collide (first second : List UInt8) : Prop := first ≠ second ∧ sha256 first = sha256 second

theorem digitChar_inj_of_lt : ∀ m < 16, ∀ n < 16, Nat.digitChar m = Nat.digitChar n → m = n := by
  decide

theorem hexByte_injective : Function.Injective hexByte := by
  intro byte other h
  have hbyte := byte.toNat_lt
  have hother := other.toNat_lt
  simp only [hexByte, List.cons.injEq, and_true] at h
  have hhigh := digitChar_inj_of_lt _ (by omega) _ (by omega) h.1
  have hlow := digitChar_inj_of_lt _ (by omega) _ (by omega) h.2
  exact UInt8.toNat_inj.1 (by omega)

/-- Bytes are written in two digits each. -/
theorem flatMap_hexByte_injective : Function.Injective (List.flatMap hexByte) := by
  intro bytes others h
  induction bytes generalizing others with
  | nil =>
    cases others with
    | nil => rfl
    | cons other others => simp [hexByte] at h
  | cons byte bytes ih =>
    cases others with
    | nil => simp [hexByte] at h
    | cons other others =>
      rw [List.flatMap_cons, List.flatMap_cons] at h
      obtain ⟨hfirst, hrest⟩ := List.append_inj h rfl
      rw [hexByte_injective hfirst, ih hrest]

theorem fingerprint_eq_iff {contents others : List (List UInt8)} :
    fingerprint contents = fingerprint others ↔ sha256 (frames contents) = sha256 (frames others) := by
  unfold fingerprint
  rw [String.ofList_inj, flatMap_hexByte_injective.eq_iff]

end Digest

namespace Shell

/-! ## Files -/

section Directory

variable {directory : Directory} {paths : List String}

theorem contents_eq_ok_iff {contents : List (List UInt8)} :
    directory.contents paths = .ok contents ↔
      List.Forall₂ (fun path content ↦ directory.read path = .ok content) paths contents := by
  induction paths generalizing contents with
  | nil => simp [Directory.contents, eq_comm]
  | cons path paths ih =>
    rw [Directory.contents, List.forall₂_cons_left_iff]
    cases hread : directory.read path with
    | error fault => simp
    | ok content =>
      simp only [← ih, Except.ok.injEq]
      cases directory.contents paths with
      | error problem => simp [Except.map]
      | ok rest => simp [Except.map, eq_comm]

/-- The content at a path, or the problem that the path makes. -/
def Directory.content (directory : Directory) (path : String) : Except Problem (List UInt8) :=
  (directory.read path).mapError fun fault ↦ .io fault.reason

theorem content_eq_ok_iff {path : String} {content : List UInt8} :
    directory.content path = .ok content ↔ directory.read path = .ok content := by
  unfold Directory.content
  cases directory.read path <;> simp [Except.mapError]

theorem content_eq_error_iff {path : String} {problem : Problem} :
    directory.content path = .error problem ↔
      ∃ fault, directory.read path = .error fault ∧ problem = .io fault.reason := by
  unfold Directory.content
  cases directory.read path <;> simp [Except.mapError, eq_comm]

theorem contents_cons (path : String) (rest : List String) :
    directory.contents (path :: rest) =
      directory.content path >>= fun content ↦
        directory.contents rest >>= fun contents ↦ .ok (content :: contents) := by
  simp only [Directory.contents, Directory.content]
  cases directory.read path <;> rfl

/-- Reading stops at the first path that cannot be read. -/
theorem contents_eq_error_iff {problem : Problem} :
    directory.contents paths = .error problem ↔
      ∃ before path after fault, paths = before ++ path :: after ∧
        (∀ earlier ∈ before, ∃ content, directory.read earlier = .ok content) ∧
        directory.read path = .error fault ∧ problem = .io fault.reason := by
  rw [run_eq_error_iff directory.contents directory.content rfl contents_cons]
  simp only [content_eq_ok_iff, content_eq_error_iff, exists_and_left]

theorem fingerprint_eq_ok_iff {digest : String} :
    directory.fingerprint paths = .ok digest ↔
      ∃ contents, List.Forall₂ (fun path content ↦ directory.read path = .ok content) paths contents ∧
        digest = Digest.fingerprint contents := by
  simp only [Directory.fingerprint, ← contents_eq_ok_iff]
  cases directory.contents paths <;> simp [Except.map, eq_comm]

theorem fingerprint_eq_error_iff {problem : Problem} :
    directory.fingerprint paths = .error problem ↔ directory.contents paths = .error problem := by
  unfold Directory.fingerprint
  cases directory.contents paths <;> simp [Except.map]

end Directory

/-- A fingerprint is the hash of a stream that frames the contents. Contents of less than `2 ^ 64` bytes each
have the same stream only if they are the same, in number and in content, so equal fingerprints of others are
a collision. If a file cannot be read, the result is the problem of the first such file. -/
theorem fingerprint_binds_contents :
    (∀ contents others : List (List UInt8), (∀ content ∈ contents, content.length < 2 ^ 64) →
      (∀ content ∈ others, content.length < 2 ^ 64) →
      Digest.Framed contents (Digest.frames contents) ∧
      (Digest.frames contents = Digest.frames others ↔ contents = others) ∧
      (Digest.fingerprint contents = Digest.fingerprint others → contents ≠ others →
        Digest.Collide (Digest.frames contents) (Digest.frames others))) ∧
    ∀ (directory : Directory) (paths : List String),
      (∀ digest, directory.fingerprint paths = .ok digest ↔
        ∃ contents, List.Forall₂ (fun path content ↦ directory.read path = .ok content) paths contents ∧
          digest = String.ofList ((Digest.sha256 (Digest.frames contents)).flatMap Digest.hexByte)) ∧
      ∀ problem, directory.fingerprint paths = .error problem ↔
        ∃ before path after fault, paths = before ++ path :: after ∧
          (∀ earlier ∈ before, ∃ content, directory.read earlier = .ok content) ∧
          directory.read path = .error fault ∧ problem = .io fault.reason := by
  refine ⟨fun contents others hcontents hothers ↦ ?_, fun directory paths ↦ ⟨fun digest ↦ ?_, fun problem ↦ ?_⟩⟩
  · have hstreams := Digest.frames_eq_iff hcontents hothers
    refine ⟨Digest.framed_frames hcontents, hstreams, fun hequal hne ↦ ?_⟩
    exact ⟨mt hstreams.1 hne, Digest.fingerprint_eq_iff.1 hequal⟩
  · exact fingerprint_eq_ok_iff
  · rw [fingerprint_eq_error_iff, contents_eq_error_iff]

/-- A content that moves to the next file makes another stream, also where the content imitates a length. Of two
files that cannot be read the first decides. -/
theorem fingerprint_binds_contents_moved :
    (∀ content ∈ ([[1, 0, 0, 0, 0, 0, 0, 0, 97], []] : List (List UInt8)), content.length < 2 ^ 64) ∧
    (∀ content ∈ ([[1, 0, 0, 0, 0, 0, 0, 0], [97]] : List (List UInt8)), content.length < 2 ^ 64) ∧
    Digest.frames [[1, 0, 0, 0, 0, 0, 0, 0, 97], []] ≠ Digest.frames [[1, 0, 0, 0, 0, 0, 0, 0], [97]] ∧
    brokenDirectory.fingerprint ["script", Directory.settingsPath, "listing"] =
      .error (.io ReadFault.isDirectory.reason) := by
  obtain ⟨hframes, hfiles⟩ := fingerprint_binds_contents
  have hfirst : ∀ content ∈ ([[1, 0, 0, 0, 0, 0, 0, 0, 97], []] : List (List UInt8)),
      content.length < 2 ^ 64 := by
    decide
  have hsecond : ∀ content ∈ ([[1, 0, 0, 0, 0, 0, 0, 0], [97]] : List (List UInt8)),
      content.length < 2 ^ 64 := by
    decide
  refine ⟨hfirst, hsecond, mt (hframes _ _ hfirst hsecond).2.1.1 (by decide), ?_⟩
  refine ((hfiles brokenDirectory _).2 _).2
    ⟨["script"], Directory.settingsPath, ["listing"], .isDirectory, rfl, ?_⟩
  simp [brokenDirectory, Directory.settingsPath]

end Shell

end DefUse
