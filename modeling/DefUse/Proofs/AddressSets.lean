import DefUse.Address
import Mathlib.Data.List.Basic

/-!
# Addresses without repeats

The set of a list of addresses has the members of the list, each where it first occurs. One pass over the list
builds the same set: it puts an address at the end unless the set has it, and after each step the set collects the
addresses that the pass has seen. The main statement is that no other set collects a list, that collecting the
members of a set gives the set back, and that two lists meet alike whichever of them is made a set.
-/

namespace DefUse

/-! ## First occurrences -/

theorem firstOccurrences_filter (keep : Address → Bool) (addresses : List Address) :
    firstOccurrences (addresses.filter keep) = (firstOccurrences addresses).filter keep := by
  induction addresses with
  | nil => rfl
  | cons first rest ih =>
    by_cases hfirst : keep first = true
    · rw [List.filter_cons_of_pos hfirst, firstOccurrences, ih, firstOccurrences,
        List.filter_cons_of_pos hfirst, List.filter_comm]
    · rw [List.filter_cons_of_neg hfirst, ih, firstOccurrences, List.filter_cons_of_neg hfirst,
        List.filter_filter]
      refine List.filter_congr fun address _ ↦ ?_
      by_cases hsame : address = first
      · simp [hsame, hfirst]
      · simp [hsame]

theorem firstOccurrences_eq_eraseDups (addresses : List Address) :
    firstOccurrences addresses = addresses.eraseDups := by
  induction hlength : addresses.length using Nat.strongRecOn generalizing addresses with
  | ind length ih =>
    cases addresses with
    | nil => rfl
    | cons first rest =>
      have hrest : (rest.filter fun address ↦ !address == first).length < length := by
        rw [← hlength, List.length_cons]
        exact Nat.lt_succ_of_le (List.length_filter_le _ rest)
      rw [List.eraseDups_cons, ← ih _ hrest _ rfl, firstOccurrences_filter, firstOccurrences]
      rfl

theorem pairwise_firstOccurrences (addresses : List Address) :
    (firstOccurrences addresses).Pairwise fun first second ↦
      addresses.idxOf first < addresses.idxOf second := by
  induction addresses with
  | nil => exact .nil
  | cons address rest ih =>
    -- What is not the first address occurs one place further on.
    have hbehind : ∀ other ∈ (firstOccurrences rest).filter (· != address),
        (address :: rest).idxOf other = rest.idxOf other + 1 := by
      intro other hother
      have hne : other ≠ address := by simpa using (List.mem_filter.1 hother).2
      exact List.idxOf_cons_ne rest hne.symm
    rw [firstOccurrences, List.pairwise_cons]
    refine ⟨fun other hother ↦ ?_, (ih.filter _).imp_of_mem fun hfirst hsecond hlt ↦ ?_⟩
    · rw [hbehind other hother, List.idxOf_cons_self]
      exact Nat.succ_pos _
    · rw [hbehind _ hfirst, hbehind _ hsecond]
      exact Nat.succ_lt_succ hlt

/-! ## Collected addresses -/

namespace AddressSet

/-- The set has the members of the list, in the order in which they first occur there. -/
structure Collects (set : AddressSet) (addresses : List Address) : Prop where
  mem_iff : ∀ address, address ∈ set.addresses ↔ address ∈ addresses
  ordered : set.addresses.Pairwise fun first second ↦ addresses.idxOf first < addresses.idxOf second

/-- Places in a list are ordered, so that there is one way to write its members in order. -/
theorem Collects.unique {set other : AddressSet} {addresses : List Address} (h : set.Collects addresses)
    (hother : other.Collects addresses) : set = other := by
  have hmem (address : Address) : address ∈ set.addresses ↔ address ∈ other.addresses := by
    rw [h.mem_iff, hother.mem_iff]
  have hperm : set.addresses.Perm other.addresses :=
    (List.perm_ext_iff_of_nodup set.nodup other.nodup).2 hmem
  have hlists : set.addresses = other.addresses :=
    hperm.eq_of_pairwise (fun _ _ _ _ hlt hgt ↦ absurd hlt (Nat.lt_asymm hgt)) h.ordered hother.ordered
  cases set
  cases other
  congr

theorem collects_ofList (addresses : List Address) : (ofList addresses).Collects addresses :=
  ⟨fun _ ↦ mem_firstOccurrences, pairwise_firstOccurrences addresses⟩

/-- In a list without repeats every member stands where it first occurs. -/
theorem collects_addresses (set : AddressSet) : set.Collects set.addresses := by
  refine ⟨fun _ ↦ Iff.rfl, List.pairwise_iff_getElem.2 fun first second hfirst hsecond hlt ↦ ?_⟩
  rwa [set.nodup.idxOf_getElem, set.nodup.idxOf_getElem]

/-! ## One pass over a list -/

/-- The set with one more address, which comes last unless the set has it. -/
def insert (set : AddressSet) (address : Address) : AddressSet :=
  if h : address ∈ set.addresses then set
  else
    ⟨set.addresses ++ [address],
      (List.perm_append_singleton address _).nodup_iff.2 (List.nodup_cons.2 ⟨h, set.nodup⟩)⟩

theorem addresses_insert (set : AddressSet) (address : Address) :
    (set.insert address).addresses =
      if address ∈ set.addresses then set.addresses else set.addresses ++ [address] := by
  unfold insert
  split <;> rfl

/-- The set that one pass over the addresses builds. -/
def collect (addresses : List Address) : AddressSet := addresses.foldl insert ⟨[], List.nodup_nil⟩

section Pass

variable {set : AddressSet} {seen : List Address}

/-- A step of the pass keeps what has been collected. -/
theorem Collects.insert (h : set.Collects seen) (address : Address) :
    (set.insert address).Collects (seen ++ [address]) := by
  have hordered : set.addresses.Pairwise fun first second ↦
      (seen ++ [address]).idxOf first < (seen ++ [address]).idxOf second := by
    refine h.ordered.imp_of_mem fun hfirst hsecond hlt ↦ ?_
    rwa [List.idxOf_append_of_mem ((h.mem_iff _).1 hfirst), List.idxOf_append_of_mem ((h.mem_iff _).1 hsecond)]
  by_cases hmem : address ∈ set.addresses
  · have hsame : (set.insert address).addresses = set.addresses := by rw [addresses_insert, if_pos hmem]
    refine ⟨fun other ↦ ?_, by rwa [hsame]⟩
    rw [hsame, h.mem_iff, List.mem_append, List.mem_singleton]
    refine ⟨.inl, fun hother ↦ hother.elim id ?_⟩
    rintro rfl
    exact (h.mem_iff other).1 hmem
  · have hlast : (set.insert address).addresses = set.addresses ++ [address] := by
      rw [addresses_insert, if_neg hmem]
    -- The new address first occurs behind all that have been seen.
    have hbehind : ∀ first ∈ set.addresses,
        (seen ++ [address]).idxOf first < (seen ++ [address]).idxOf address := by
      intro first hfirst
      have hseen : first ∈ seen := (h.mem_iff first).1 hfirst
      rw [List.idxOf_append_of_mem hseen, List.idxOf_append_of_notMem (mt (h.mem_iff address).2 hmem)]
      exact Nat.lt_add_right _ (List.idxOf_lt_length_iff.2 hseen)
    refine ⟨fun other ↦ ?_, ?_⟩
    · rw [hlast, List.mem_append, List.mem_append, h.mem_iff]
    · rw [hlast, List.pairwise_append]
      exact ⟨hordered, List.pairwise_singleton _ _, fun first hfirst second hsecond ↦
        List.mem_singleton.1 hsecond ▸ hbehind first hfirst⟩

/-- After the whole pass, what was collected before it and what the pass has seen are collected. -/
theorem Collects.foldl_insert (h : set.Collects seen) (addresses : List Address) :
    (addresses.foldl AddressSet.insert set).Collects (seen ++ addresses) := by
  induction addresses generalizing set seen with
  | nil => rwa [List.append_nil]
  | cons address rest ih =>
    rw [List.foldl_cons, List.append_cons]
    exact ih (h.insert address)

theorem collects_collect (addresses : List Address) : (collect addresses).Collects addresses := by
  have hempty : Collects ⟨[], List.nodup_nil⟩ [] := ⟨fun _ ↦ Iff.rfl, .nil⟩
  exact hempty.foldl_insert addresses

/-- The pass builds the set of the addresses, since both collect them. -/
theorem ofList_eq_collect (addresses : List Address) : ofList addresses = collect addresses :=
  (collects_ofList addresses).unique (collects_collect addresses)

end Pass

/-! ## Common members -/

theorem intersects_ofList_iff (addresses others : List Address) :
    (ofList addresses).intersects others = true ↔ ∃ address, address ∈ addresses ∧ address ∈ others := by
  rw [intersects_iff]
  refine exists_congr fun address ↦ ?_
  rw [(collects_ofList addresses).mem_iff, and_comm]

theorem intersects_ofList_comm (addresses others : List Address) :
    (ofList addresses).intersects others = (ofList others).intersects addresses := by
  rw [Bool.eq_iff_iff, intersects_ofList_iff, intersects_ofList_iff]
  exact exists_congr fun _ ↦ and_comm

/-- The set of a list has each member of the list once and nothing else, in the order of first occurrence, and it is
the only set that does; one pass over the list builds it, and from its own members it is built again. It intersects
a list exactly if the two lists have a common member, which is to say the same of both. -/
theorem ofList_faithful (addresses : List Address) :
    (∀ address, (ofList addresses).addresses.count address = if address ∈ addresses then 1 else 0) ∧
      ((ofList addresses).addresses.Pairwise fun first second ↦
        addresses.idxOf first < addresses.idxOf second) ∧
      (∀ set : AddressSet, set.Collects addresses ↔ set = ofList addresses) ∧
      ofList addresses = collect addresses ∧
      ofList (ofList addresses).addresses = ofList addresses ∧
      ∀ others : List Address,
        ((ofList addresses).intersects others = true ↔
          ∃ address, address ∈ addresses ∧ address ∈ others) ∧
        (ofList addresses).intersects others = (ofList others).intersects addresses := by
  have hcollects : (ofList addresses).Collects addresses := collects_ofList addresses
  refine ⟨fun address ↦ ?_, hcollects.ordered, fun set ↦ ⟨fun h ↦ h.unique hcollects, ?_⟩,
    ofList_eq_collect addresses, ?_, fun others ↦ ⟨intersects_ofList_iff addresses others,
      intersects_ofList_comm addresses others⟩⟩
  · rw [(ofList addresses).nodup.count]
    simp only [hcollects.mem_iff]
  · rintro rfl
    exact hcollects
  · exact (collects_ofList _).unique (collects_addresses _)

end AddressSet

end DefUse
