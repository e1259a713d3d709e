import DefUse.Text.Blank

/-!
# Addresses

An address is an opaque name that a definition shares with its uses. Elements carry lists of
addresses, written with commas between them; a selection stands for the set of its addresses.
-/

namespace DefUse

abbrev Address := String

/-- The nonempty segments between the commas of an address text, as they are. -/
def addressesOf (text : String) : List Address :=
  (Text.segments (· == ',') text.toList).map String.ofList

/-- The members of a list without repeats, each where it first occurs. -/
def firstOccurrences : List Address → List Address
  | [] => []
  | address :: rest => address :: (firstOccurrences rest).filter (· != address)

@[simp] theorem mem_firstOccurrences {address : Address} {addresses : List Address} :
    address ∈ firstOccurrences addresses ↔ address ∈ addresses := by
  induction addresses with
  | nil => simp [firstOccurrences]
  | cons head rest ih =>
    by_cases h : address = head <;> simp [firstOccurrences, ih, h]

theorem nodup_firstOccurrences (addresses : List Address) : (firstOccurrences addresses).Nodup := by
  induction addresses with
  | nil => simp [firstOccurrences]
  | cons head rest ih =>
    simp only [firstOccurrences, List.nodup_cons]
    exact ⟨by simp, ih.filter _⟩

/-- Addresses without repeats. -/
structure AddressSet where
  addresses : List Address
  nodup : addresses.Nodup
deriving DecidableEq

namespace AddressSet

def ofList (addresses : List Address) : AddressSet :=
  ⟨firstOccurrences addresses, nodup_firstOccurrences addresses⟩

/-- One of the addresses is in the set. -/
def intersects (set : AddressSet) (addresses : List Address) : Bool :=
  addresses.any (set.addresses.contains ·)

theorem intersects_iff (set : AddressSet) (addresses : List Address) :
    set.intersects addresses = true ↔ ∃ address ∈ addresses, address ∈ set.addresses := by
  simp [intersects]

def size (set : AddressSet) : Nat := set.addresses.length

def isEmpty (set : AddressSet) : Bool := set.addresses.isEmpty

end AddressSet

end DefUse
