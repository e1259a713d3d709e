import DefUse.Proofs.Ambiguity

/-!
# The ambiguities in statistics

Statistics sort the navigable definitions of a kind into groups, each definition into the groups of all of its
addresses, and compare the definitions of a group with the first of them. The main statement says what comes
out: an entry for each address about which two definitions disagree, all definitions at the address in it, and
the entries in the order of their kinds and addresses.
-/

namespace DefUse

/-- The element is a navigable definition of the kind and carries the address. -/
def Element.DefinesAt (element : Element) (kind : NavKind) (address : Address) : Prop :=
  (TagPair.navigable kind).definition ∈ element.tags ∧ address ∈ element.addresses

instance (element : Element) (kind : NavKind) (address : Address) : Decidable (element.DefinesAt kind address) :=
  inferInstanceAs (Decidable (_ ∧ _))

namespace Ambiguity

/-- Entries about variables come before entries about values, and those of one kind are in the order of the
code points of their addresses. -/
def Precedes (first second : Ambiguity) : Prop :=
  first.kind = .binding ∧ second.kind = .value ∨ first.kind = second.kind ∧ first.address < second.address

theorem Precedes.ne {first second : Ambiguity} (h : first.Precedes second) :
    (first.kind, first.address) ≠ (second.kind, second.address) := by
  intro heq
  obtain ⟨hkind, haddress⟩ := Prod.mk.inj heq
  rcases h with ⟨hfirst, hsecond⟩ | ⟨_, hlt⟩
  · rw [hfirst, hsecond] at hkind
    contradiction
  · rw [haddress] at hlt
    exact String.lt_irrefl _ hlt

/-- The entry names the definitions at its address: all of them, each once, as they are written. -/
structure NamesDefinitions (listing : Listing) (entry : Ambiguity) : Prop where
  nodup : entry.definitions.Nodup
  inOrder : entry.definitions.Sublist (listing.elements.map Element.id)
  mem_iff : ∀ id, id ∈ entry.definitions ↔
    ∃ element ∈ listing.elements, element.id = id ∧ element.DefinesAt entry.kind entry.address

end Ambiguity

namespace Statistics

/-! ## The order of the entries -/

section Entries

variable {listing : Listing} {kind : NavKind} {entry : Ambiguity}

theorem pairwise_ambiguities : (ambiguities listing kind).Pairwise Ambiguity.Precedes := by
  refine Std.ExtTreeMap.ordered_keys_toList.filterMap _ fun first second hlt entry hentry other hother ↦ ?_
  obtain ⟨_, rfl⟩ := ambiguity_eq_some_iff.1 hentry
  obtain ⟨_, rfl⟩ := ambiguity_eq_some_iff.1 hother
  exact .inr ⟨rfl, compareOfLessAndEq_eq_lt.1 hlt⟩

theorem eq_of_mem_ambiguities (h : entry ∈ ambiguities listing kind) :
    entry.kind = kind ∧
      entry.definitions = ((listing.tagged (TagPair.navigable kind).definition).filter
        (entry.address ∈ ·.addresses)).map Element.id := by
  obtain ⟨address, _, rfl⟩ := mem_ambiguities_iff.1 h
  exact ⟨rfl, rfl⟩

theorem pairwise_ambiguous : (ofListing listing).ambiguous.Pairwise Ambiguity.Precedes := by
  have hkinds : (ofListing listing).ambiguous = ambiguities listing .binding ++ ambiguities listing .value := by
    simp [ofListing, NavKind.all]
  rw [hkinds, List.pairwise_append]
  refine ⟨pairwise_ambiguities, pairwise_ambiguities, fun first hfirst second hsecond ↦ ?_⟩
  exact .inl ⟨(eq_of_mem_ambiguities hfirst).1, (eq_of_mem_ambiguities hsecond).1⟩

/-! ## The definitions in an entry -/

theorem namesDefinitions_of_mem_ambiguous (hnodup : (listing.elements.map Element.id).Nodup)
    (h : entry ∈ (ofListing listing).ambiguous) : entry.NamesDefinitions listing := by
  obtain ⟨kind, _, hentry⟩ := List.mem_flatMap.1 h
  obtain ⟨rfl, hdefinitions⟩ := eq_of_mem_ambiguities hentry
  have hsublist : entry.definitions.Sublist (listing.elements.map Element.id) := by
    rw [hdefinitions]
    exact (List.filter_sublist.trans List.filter_sublist).map Element.id
  refine ⟨hnodup.sublist hsublist, hsublist, fun id ↦ ?_⟩
  simp only [hdefinitions, List.mem_map, List.mem_filter, Listing.mem_tagged, decide_eq_true_eq,
    Element.DefinesAt]
  constructor
  · rintro ⟨element, ⟨⟨helement, htag⟩, haddress⟩, hid⟩
    exact ⟨element, helement, hid, htag, haddress⟩
  · rintro ⟨element, helement, hid, htag, haddress⟩
    exact ⟨element, ⟨⟨helement, htag⟩, haddress⟩, hid⟩

end Entries

theorem disputed_tagged_iff (listing : Listing) (kind : NavKind) (address : Address) :
    Disputed (listing.tagged (TagPair.navigable kind).definition) address ↔
      ∃ first ∈ listing.elements, ∃ second ∈ listing.elements, first.DefinesAt kind address ∧
        second.DefinesAt kind address ∧ first.addresses ≠ second.addresses := by
  simp only [Disputed, Listing.mem_tagged, Element.DefinesAt]
  constructor
  · rintro ⟨first, ⟨hfirst, htag⟩, second, ⟨hsecond, htagToo⟩, hshared, hsharedToo, hne⟩
    exact ⟨first, hfirst, second, hsecond, ⟨htag, hshared⟩, ⟨htagToo, hsharedToo⟩, hne⟩
  · rintro ⟨first, hfirst, second, hsecond, ⟨htag, hshared⟩, ⟨htagToo, hsharedToo⟩, hne⟩
    exact ⟨first, ⟨hfirst, htag⟩, second, ⟨hsecond, htagToo⟩, hshared, hsharedToo, hne⟩

/-- The statistics of a listing that is read have an entry for a kind and an address exactly if two definitions
of the kind carry the address and differ in their address lists. There is one entry at most for each, it
names the definitions at the address, and the entries are in order. -/
theorem ambiguous_exact {source : String} {listing : Listing} (hread : Listing.ofText source = .ok listing) :
    let entries := (ofListing listing).ambiguous
    (∀ kind address, (∃ entry ∈ entries, entry.kind = kind ∧ entry.address = address) ↔
      ∃ first ∈ listing.elements, ∃ second ∈ listing.elements, first.DefinesAt kind address ∧
        second.DefinesAt kind address ∧ first.addresses ≠ second.addresses) ∧
    (entries.map fun entry ↦ (entry.kind, entry.address)).Nodup ∧
    (∀ entry ∈ entries, entry.NamesDefinitions listing) ∧
    entries.Pairwise Ambiguity.Precedes := by
  intro entries
  have hpairwise : entries.Pairwise Ambiguity.Precedes := pairwise_ambiguous
  refine ⟨fun kind address ↦ ?_, ?_, fun entry ↦ ?_, hpairwise⟩
  · rw [exists_mem_ambiguous_iff, disputed_tagged_iff]
  · exact List.pairwise_map.2 (hpairwise.imp Ambiguity.Precedes.ne)
  · exact namesDefinitions_of_mem_ambiguous (Listing.WellFormed.ofText hread).ids_nodup

/-- Three definitions that share addresses, one of which repeats an address. -/
def sharedSource : String :=
  "\x7b\"rows\":[\x7b\"elements\":[" ++
    "\x7b\"id\":\"p\",\"class\":\"DENV-DEF DVAL-DEF\",\"address\":\"b,a,b\"\x7d," ++
    "\x7b\"id\":\"q\",\"class\":\"DENV-DEF DVAL-DEF\",\"address\":\"a\"\x7d]\x7d," ++
  "\x7b\"elements\":[\x7b\"id\":\"r\",\"class\":\"DENV-DEF\",\"address\":\"b\"\x7d]\x7d]\x7d"

def sharedListing : Listing :=
  .indexed [⟨0, none, "", ["p", "q"]⟩, ⟨1, none, "", ["r"]⟩]
    [⟨"p", none, 0, "", ["b", "a", "b"], [.navigable .value .definition, .navigable .binding .definition]⟩,
     ⟨"q", none, 0, "", ["a"], [.navigable .value .definition, .navigable .binding .definition]⟩,
     ⟨"r", none, 1, "", ["b"], [.navigable .binding .definition]⟩]

theorem ofText_sharedSource : Listing.ofText sharedSource = .ok sharedListing := by
  decide +kernel

/-- The definition that repeats an address is named once in its entry. The values do not disagree there, since
only one of them carries the address. -/
theorem ambiguous_exact_shared :
    Listing.ofText sharedSource = .ok sharedListing ∧
    (∃ entry ∈ (ofListing sharedListing).ambiguous, entry.kind = .binding ∧ entry.address = "b" ∧
      entry.definitions.Nodup ∧ ∀ id, id ∈ entry.definitions ↔ id = "p" ∨ id = "r") ∧
    (¬∃ entry ∈ (ofListing sharedListing).ambiguous, entry.kind = .value ∧ entry.address = "b") ∧
    (ofListing sharedListing).ambiguous =
      [⟨"a", ["p", "q"], .binding⟩, ⟨"b", ["p", "r"], .binding⟩, ⟨"a", ["p", "q"], .value⟩] := by
  obtain ⟨hiff, -, hnames, -⟩ := ambiguous_exact ofText_sharedSource
  refine ⟨ofText_sharedSource, ?_, ?_, by decide +kernel⟩
  · obtain ⟨entry, hentry, hkind, haddress⟩ := (hiff .binding "b").2 (by decide)
    obtain ⟨hnodup, -, hmem⟩ := hnames entry hentry
    refine ⟨entry, hentry, hkind, haddress, hnodup, fun id ↦ ?_⟩
    rw [hmem, hkind, haddress]
    simp [sharedListing, Listing.indexed, Element.DefinesAt, TagPair.navigable, eq_comm]
  · rw [hiff]
    decide

end Statistics

end DefUse
