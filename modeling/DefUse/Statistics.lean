import DefUse.Definition
import DefUse.Json.Value

/-!
# Statistics

What a listing holds: how many elements carry each tag, how many addresses each kind of fact has, and
the addresses at which going to a definition is ambiguous.
-/

namespace DefUse

/-- An address whose navigable definitions differ in their address lists. -/
structure Ambiguity where
  address : Address
  definitions : List ElementId
  kind : NavKind
deriving DecidableEq

structure Statistics where
  addresses : List (FactKind × Nat)
  ambiguous : List Ambiguity
  elements : Nat
  perTag : List (Tag × Nat)
  rows : Nat
  tagged : Nat
deriving DecidableEq

namespace Statistics

/-- The addresses of the definitions and uses of a kind, each once. -/
def factAddresses (listing : Listing) (kind : FactKind) : List Address :=
  let facts := listing.elements.filter fun element ↦ (element.roleIn (.fact kind)).isSome
  firstOccurrences (facts.flatMap Element.addresses)

/-- Elements by the addresses that they carry. -/
abbrev Groups := Std.ExtTreeMap Address (List Element)

/-- Adds an element behind those at an address. -/
def addAt (element : Element) (groups : Groups) (address : Address) : Groups :=
  groups.insert address (groups.getD address [] ++ [element])

/-- Adds an element at each of its addresses, once. -/
def addElement (groups : Groups) (element : Element) : Groups :=
  (Std.ExtTreeSet.ofList element.addresses).toList.foldl (addAt element) groups

def groupsOf (elements : List Element) : Groups := elements.foldl addElement ∅

/-- The ambiguity of an address, if the elements there do not agree. -/
def ambiguity (kind : NavKind) (address : Address) (elements : List Element) : Option Ambiguity :=
  if agree elements then none else some ⟨address, elements.map Element.id, kind⟩

/-- The ambiguities of the definitions of a kind, in the order of the addresses. -/
def ambiguities (listing : Listing) (kind : NavKind) : List Ambiguity :=
  (groupsOf (listing.tagged (TagPair.navigable kind).definition)).toList.filterMap
    fun (address, definitions) ↦ ambiguity kind address definitions

/-- The tags in the order of their tokens. -/
def tagsByToken : List Tag := Tag.all.mergeSort fun first second ↦ first.token ≤ second.token

def ofListing (listing : Listing) : Statistics where
  addresses := FactKind.ordered.map fun kind ↦ (kind, (factAddresses listing kind).length)
  ambiguous := NavKind.all.flatMap (ambiguities listing)
  elements := listing.elements.length
  perTag := tagsByToken.map fun tag ↦ (tag, (listing.tagged tag).length)
  rows := listing.rows.length
  tagged := (listing.elements.filter fun element ↦ !element.tags.isEmpty).length

def ambiguityLine (entry : Ambiguity) : String :=
  s!"- {entry.kind.label} `{entry.address}`: " ++ ", ".intercalate entry.definitions

def markdownLines (statistics : Statistics) : List String :=
  ["# Listing",
   "",
   s!"Rows:     {statistics.rows}",
   s!"Elements: {statistics.elements} ({statistics.tagged} tagged)",
   "",
   "## Tags",
   "",
   "| Tag | Elements |",
   "|-----|----------|"] ++
  statistics.perTag.map (fun (tag, count) ↦ s!"| {tag.token} | {count} |") ++
  ["",
   "## Addresses",
   ""] ++
  statistics.addresses.map (fun (kind, count) ↦ s!"- {kind.label}: {count}") ++
  ["",
   "## Ambiguous goto targets",
   ""] ++
  if statistics.ambiguous.isEmpty then ["(none)"] else statistics.ambiguous.map ambiguityLine

def markdown (statistics : Statistics) : String :=
  String.join (statistics.markdownLines.map (· ++ "\n"))

open Json (Value)

def ambiguityValue (entry : Ambiguity) : Value :=
  .object [("address", .string entry.address), ("definitions", .ofList .string entry.definitions),
    ("kind", .string entry.kind.key)]

def value (statistics : Statistics) : Value :=
  .object [
    ("addresses", .object (statistics.addresses.map fun (kind, count) ↦ (kind.key, .number count))),
    ("ambiguous", .ofList ambiguityValue statistics.ambiguous),
    ("elements", .number statistics.elements),
    ("per_tag", .object (statistics.perTag.map fun (tag, count) ↦ (tag.token, .number count))),
    ("rows", .number statistics.rows),
    ("tagged", .number statistics.tagged)]

end Statistics

end DefUse
