import DefUse.Proofs.Navigation
import DefUse.Statistics

/-!
# Ambiguity in statistics and in navigation

Statistics look for ambiguity address by address, navigation looks for it from an origin. Both come down to
two navigable definitions that share an address and differ in their address lists. The statistics put one
definition after the other into the groups of its addresses, and in the end the group of an address has those
that carry it. The main statement compares the two: an entry of the statistics for an address of the selection makes the navigation ambiguous,
and an ambiguous navigation has such an entry if the selection has one address or is a definition itself.
-/

namespace DefUse

theorem agree_eq_true_iff (elements : List Element) :
    agree elements = true ↔
      ∀ element ∈ elements, ∀ other ∈ elements, element.addresses = other.addresses := by
  cases elements with
  | nil => simp [agree]
  | cons first others =>
    simp only [agree, List.all_eq_true, decide_eq_true_eq]
    constructor
    · intro h
      -- All have the address list of the first, the first included.
      have hfirst : ∀ element ∈ first :: others, element.addresses = first.addresses := by
        rw [List.forall_mem_cons]
        exact ⟨rfl, h⟩
      intro element helement other hother
      exact (hfirst element helement).trans (hfirst other hother).symm
    · intro h element helement
      exact h element (List.mem_cons_of_mem _ helement) first List.mem_cons_self

theorem agree_eq_false_iff (elements : List Element) :
    agree elements = false ↔
      ∃ element ∈ elements, ∃ other ∈ elements, element.addresses ≠ other.addresses := by
  rw [← Bool.not_eq_true, agree_eq_true_iff]
  push Not
  rfl

/-- Two of the definitions share the address and differ in their address lists. -/
def Disputed (definitions : List Element) (address : Address) : Prop :=
  ∃ first ∈ definitions, ∃ second ∈ definitions,
    address ∈ first.addresses ∧ address ∈ second.addresses ∧ first.addresses ≠ second.addresses

theorem agree_filter_eq_false_iff (definitions : List Element) (address : Address) :
    agree (definitions.filter (address ∈ ·.addresses)) = false ↔ Disputed definitions address := by
  rw [agree_eq_false_iff]
  simp only [List.mem_filter, decide_eq_true_eq]
  constructor
  · rintro ⟨first, ⟨hfirst, hshared⟩, second, ⟨hsecond, hsharedToo⟩, hne⟩
    exact ⟨first, hfirst, second, hsecond, hshared, hsharedToo, hne⟩
  · rintro ⟨first, hfirst, second, hsecond, hshared, hsharedToo, hne⟩
    exact ⟨first, ⟨hfirst, hshared⟩, second, ⟨hsecond, hsharedToo⟩, hne⟩

/-! ## Entries of the statistics -/

namespace Statistics

section Groups

variable {groups : Groups} {address : Address}

theorem getElem?_addAt (element : Element) (other : Address) :
    (addAt element groups other)[address]? =
      if other = address then some (groups.getD address [] ++ [element]) else groups[address]? := by
  simp only [addAt, Std.ExtTreeMap.getElem?_insert, Std.LawfulEqCmp.compare_eq_iff_eq]
  by_cases h : other = address
  · simp [h]
  · simp [h]

/-- At different addresses an element is added once to each. -/
theorem getElem?_foldl_addAt (element : Element) {addresses : List Address} (hnodup : addresses.Nodup) :
    (addresses.foldl (addAt element) groups)[address]? =
      if address ∈ addresses then some (groups.getD address [] ++ [element]) else groups[address]? := by
  induction addresses generalizing groups with
  | nil => simp
  | cons first rest ih =>
    obtain ⟨hfirst, hrest⟩ := List.nodup_cons.1 hnodup
    rw [List.foldl_cons, ih hrest, Std.ExtTreeMap.getD_eq_getD_getElem?, getElem?_addAt]
    by_cases hsame : first = address
    · subst hsame
      simp [hfirst]
    · have hother : address ≠ first := Ne.symm hsame
      simp [hsame, hother, Std.ExtTreeMap.getD_eq_getD_getElem?]

/-- An element is added once to each of its addresses, even if it repeats one. -/
theorem getElem?_addElement (element : Element) :
    (addElement groups element)[address]? =
      if address ∈ element.addresses then some (groups.getD address [] ++ [element])
      else groups[address]? := by
  have hnodup : (Std.ExtTreeSet.ofList element.addresses).toList.Nodup := by
    refine Std.ExtTreeSet.distinct_toList.imp fun hne heq ↦ hne ?_
    rw [heq]
    exact Std.ReflCmp.compare_self
  unfold addElement
  rw [getElem?_foldl_addAt element hnodup]
  simp only [Std.ExtTreeSet.mem_toList, Std.ExtTreeSet.mem_ofList, List.contains_iff_mem]

/-- The group of an address holds the elements that carry it, in order. -/
theorem getElem?_groupsOf (elements : List Element) :
    (groupsOf elements)[address]? =
      if elements.filter (address ∈ ·.addresses) = [] then none
      else some (elements.filter (address ∈ ·.addresses)) := by
  induction elements using List.reverseRecOn with
  | nil => simp [groupsOf]
  | append_singleton elements element ih =>
    have hgroups : groupsOf (elements ++ [element]) = addElement (groupsOf elements) element := by
      rw [groupsOf, List.foldl_append]
      rfl
    have hbefore : (groupsOf elements).getD address [] = elements.filter (address ∈ ·.addresses) := by
      rw [Std.ExtTreeMap.getD_eq_getD_getElem?, ih]
      split
      · rename_i hnil
        rw [hnil]
        rfl
      · rfl
    rw [hgroups, getElem?_addElement, hbefore, List.filter_append, ih]
    by_cases haddress : address ∈ element.addresses
    · simp [haddress]
    · simp [haddress]

theorem mem_toList_groupsOf_iff {elements carriers : List Element} :
    (address, carriers) ∈ (groupsOf elements).toList ↔
      carriers = elements.filter (address ∈ ·.addresses) ∧ carriers ≠ [] := by
  rw [Std.ExtTreeMap.mem_toList_iff_getElem?_eq_some, getElem?_groupsOf]
  split
  · rename_i hnil
    rw [hnil]
    simp
  · rename_i hne
    rw [Option.some.injEq]
    constructor
    · rintro rfl
      exact ⟨rfl, hne⟩
    · rintro ⟨rfl, _⟩
      rfl

end Groups

theorem ambiguity_eq_some_iff {kind : NavKind} {address : Address} {elements : List Element}
    {entry : Ambiguity} :
    ambiguity kind address elements = some entry ↔
      agree elements = false ∧ entry = ⟨address, elements.map Element.id, kind⟩ := by
  unfold ambiguity
  cases agree elements with
  | true => simp
  | false => simp [eq_comm (a := entry)]

/-- The entries are about the addresses in dispute, and name the definitions that carry them. -/
theorem mem_ambiguities_iff {listing : Listing} {kind : NavKind} {entry : Ambiguity} :
    entry ∈ ambiguities listing kind ↔
      ∃ address, Disputed (listing.tagged (TagPair.navigable kind).definition) address ∧
        entry = ⟨address, ((listing.tagged (TagPair.navigable kind).definition).filter
          (address ∈ ·.addresses)).map Element.id, kind⟩ := by
  simp only [ambiguities, List.mem_filterMap, Prod.exists, mem_toList_groupsOf_iff, ambiguity_eq_some_iff]
  constructor
  · rintro ⟨address, _, ⟨rfl, _⟩, hagree, rfl⟩
    exact ⟨address, (agree_filter_eq_false_iff _ _).1 hagree, rfl⟩
  · rintro ⟨address, hdisputed, rfl⟩
    have hagree := (agree_filter_eq_false_iff _ _).2 hdisputed
    refine ⟨address, _, ⟨rfl, fun hnil ↦ ?_⟩, hagree, rfl⟩
    rw [hnil] at hagree
    contradiction

/-- Every entry is about an address in dispute, and every address in dispute has an entry. -/
theorem exists_mem_ambiguous_iff (listing : Listing) (kind : NavKind) (address : Address) :
    (∃ entry ∈ (ofListing listing).ambiguous, entry.kind = kind ∧ entry.address = address) ↔
      Disputed (listing.tagged (TagPair.navigable kind).definition) address := by
  have hkinds : kind ∈ NavKind.all := by cases kind <;> decide
  simp only [ofListing, List.mem_flatMap, mem_ambiguities_iff]
  constructor
  · rintro ⟨entry, ⟨other, _, shared, hdisputed, rfl⟩, rfl, rfl⟩
    exact hdisputed
  · intro hdisputed
    exact ⟨_, ⟨kind, hkinds, address, hdisputed, rfl⟩, rfl, rfl⟩

end Statistics

/-! ## Ambiguous navigation -/

section Navigation

variable {listing : Listing} {kind : NavKind} {origin : ElementId} {selection : Selection}

theorem mem_addresses_of_resolve {pair : TagPair} (h : listing.resolve pair origin = some selection)
    {address : Address} :
    address ∈ selection.addresses.addresses ↔ address ∈ selection.element.addresses := by
  obtain ⟨element, _, rfl⟩ := Option.map_eq_some_iff.1 h
  exact mem_firstOccurrences

theorem mem_targets_iff_exists_mem {addresses : AddressSet} {element : Element} :
    element ∈ targets listing kind addresses ↔
      element ∈ listing.tagged (TagPair.navigable kind).definition ∧
        ∃ address ∈ addresses.addresses, address ∈ element.addresses := by
  rw [targets, List.mem_filter, AddressSet.intersects_iff]
  simp only [and_comm]

theorem goToDefinition_eq_ambiguous_iff (h : listing.resolve (.navigable kind) origin = some selection)
    (duration : UInt64) (view : View) :
    (goToDefinition listing duration kind origin view).2 = .ambiguous ↔
      ∃ first ∈ targets listing kind selection.addresses,
        ∃ second ∈ targets listing kind selection.addresses, first.addresses ≠ second.addresses := by
  rw [← agree_eq_false_iff]
  constructor
  · intro hambiguous
    by_contra hagree
    rw [Bool.not_eq_false] at hagree
    cases hfound : targets listing kind selection.addresses with
    | nil =>
      rw [goToDefinition_noTarget duration view h hfound] at hambiguous
      contradiction
    | cons first rest =>
      rw [hfound] at hagree
      rw [goToDefinition_unique duration view h hfound hagree] at hambiguous
      contradiction
  · intro hagree
    rw [goToDefinition_ambiguous duration view h hagree]

/-- Both definitions in dispute about an address of the selection are among its targets. -/
theorem ambiguous_of_disputed (h : listing.resolve (.navigable kind) origin = some selection)
    {address : Address} (haddress : address ∈ selection.addresses.addresses)
    (hdisputed : Disputed (listing.tagged (TagPair.navigable kind).definition) address)
    (duration : UInt64) (view : View) :
    (goToDefinition listing duration kind origin view).2 = .ambiguous := by
  obtain ⟨first, hfirst, second, hsecond, hshared, hsharedToo, hne⟩ := hdisputed
  rw [goToDefinition_eq_ambiguous_iff h]
  exact ⟨first, mem_targets_iff_exists_mem.2 ⟨hfirst, address, haddress, hshared⟩,
    second, mem_targets_iff_exists_mem.2 ⟨hsecond, address, haddress, hsharedToo⟩, hne⟩

/-- With one address, all targets share it. -/
theorem disputed_of_ambiguous_of_size_eq_one
    (h : listing.resolve (.navigable kind) origin = some selection)
    (hsize : selection.addresses.size = 1) {duration : UInt64} {view : View}
    (hambiguous : (goToDefinition listing duration kind origin view).2 = .ambiguous) :
    ∃ address ∈ selection.addresses.addresses,
      Disputed (listing.tagged (TagPair.navigable kind).definition) address := by
  obtain ⟨address, hone⟩ := List.length_eq_one_iff.1 hsize
  obtain ⟨first, hfirst, second, hsecond, hne⟩ :=
    (goToDefinition_eq_ambiguous_iff h duration view).1 hambiguous
  simp only [mem_targets_iff_exists_mem, hone, List.mem_singleton, exists_eq_left] at hfirst hsecond
  refine ⟨address, by rw [hone]; exact List.mem_singleton_self address, ?_⟩
  exact ⟨first, hfirst.1, second, hsecond.1, hfirst.2, hsecond.2, hne⟩

/-- A selection that is a definition is a target of its own, and some target differs from it. -/
theorem disputed_of_ambiguous_of_mem_tags
    (h : listing.resolve (.navigable kind) origin = some selection)
    (htag : (TagPair.navigable kind).definition ∈ selection.element.tags) {duration : UInt64} {view : View}
    (hambiguous : (goToDefinition listing duration kind origin view).2 = .ambiguous) :
    ∃ address ∈ selection.addresses.addresses,
      Disputed (listing.tagged (TagPair.navigable kind).definition) address := by
  have hselection : selection.element ∈ listing.tagged (TagPair.navigable kind).definition :=
    Listing.mem_tagged.2
      ⟨Listing.mem_of_nearest_eq_some (Listing.nearest_of_resolve_eq_some h), htag⟩
  obtain ⟨first, hfirst, second, hsecond, hne⟩ :=
    (goToDefinition_eq_ambiguous_iff h duration view).1 hambiguous
  have hdiffers : ∃ other ∈ targets listing kind selection.addresses,
      selection.element.addresses ≠ other.addresses := by
    by_cases hsame : selection.element.addresses = first.addresses
    · exact ⟨second, hsecond, hsame ▸ hne⟩
    · exact ⟨first, hfirst, hsame⟩
  obtain ⟨other, hother, hne⟩ := hdiffers
  obtain ⟨hother, address, haddress, hshared⟩ := mem_targets_iff_exists_mem.1 hother
  exact ⟨address, haddress, selection.element, hselection, other, hother,
    (mem_addresses_of_resolve h).1 haddress, hshared, hne⟩

end Navigation

/-- The statistics have an entry of the kind for one of the addresses. -/
def Statistics.HasEntry (statistics : Statistics) (kind : NavKind) (addresses : AddressSet) : Prop :=
  ∃ entry ∈ statistics.ambiguous, entry.kind = kind ∧ entry.address ∈ addresses.addresses

theorem Statistics.hasEntry_ofListing_iff (listing : Listing) (kind : NavKind) (addresses : AddressSet) :
    (Statistics.ofListing listing).HasEntry kind addresses ↔
      ∃ address ∈ addresses.addresses,
        Disputed (listing.tagged (TagPair.navigable kind).definition) address := by
  simp only [← exists_mem_ambiguous_iff]
  constructor
  · rintro ⟨entry, hentry, hkind, haddress⟩
    exact ⟨entry.address, haddress, entry, hentry, hkind, rfl⟩
  · rintro ⟨address, haddress, entry, hentry, hkind, rfl⟩
    exact ⟨entry, hentry, hkind, haddress⟩

/-- An entry of the statistics for an address of the selection makes going to its definition ambiguous.
Where that is ambiguous, there is such an entry if the selection has a single address or is a navigable
definition. -/
theorem statistics_predict_navigation {listing : Listing} {kind : NavKind} {origin : ElementId}
    {selection : Selection} (h : listing.resolve (.navigable kind) origin = some selection) :
    ((Statistics.ofListing listing).HasEntry kind selection.addresses → ∀ duration view,
      (goToDefinition listing duration kind origin view).2 = .ambiguous) ∧
    ∀ duration view, (goToDefinition listing duration kind origin view).2 = .ambiguous →
      selection.addresses.size = 1 ∨
        (TagPair.navigable kind).definition ∈ selection.element.tags →
      (Statistics.ofListing listing).HasEntry kind selection.addresses := by
  simp only [Statistics.hasEntry_ofListing_iff]
  refine ⟨?_, fun duration view hambiguous hcase ↦ ?_⟩
  · rintro ⟨address, haddress, hdisputed⟩ duration view
    exact ambiguous_of_disputed h haddress hdisputed duration view
  · rcases hcase with hsize | htag
    · exact disputed_of_ambiguous_of_size_eq_one h hsize hambiguous
    · exact disputed_of_ambiguous_of_mem_tags h htag hambiguous

/-- In the sample the address of the use is in dispute between the two definitions. Going there from the
element inside the use is ambiguous, and so it is from the second definition, which has two addresses. -/
theorem statistics_predict_navigation_sample :
    (∃ selection, Listing.sampleListing.resolve (.navigable .binding) "g" = some selection ∧
      selection.addresses.size = 1 ∧
      (Statistics.ofListing Listing.sampleListing).HasEntry .binding selection.addresses ∧
      ∀ duration view,
        (goToDefinition Listing.sampleListing duration .binding "g" view).2 = .ambiguous) ∧
    ∃ selection, Listing.sampleListing.resolve (.navigable .binding) "w" = some selection ∧
      (TagPair.navigable .binding).definition ∈ selection.element.tags ∧
      selection.addresses.size = 2 ∧
      (Statistics.ofListing Listing.sampleListing).HasEntry .binding selection.addresses := by
  have hdisputed :
      Disputed (Listing.sampleListing.tagged (TagPair.navigable .binding).definition) "a" := by
    unfold Disputed
    decide
  have hambiguous :
      (goToDefinition Listing.sampleListing 200 .binding "w" .initial).2 = .ambiguous := by
    decide +kernel
  have huse : Listing.sampleListing.resolve (.navigable .binding) "g" =
      some ⟨⟨"u", none, 1, "", ["a"], [.fact .binding .use, .linked .use, .navigable .binding .use]⟩,
        .ofList ["a"]⟩ := by
    decide
  have hdefinition : Listing.sampleListing.resolve (.navigable .binding) "w" =
      some ⟨⟨"w", none, 2, "", ["a", "b"], [.navigable .binding .definition]⟩, .ofList ["a", "b"]⟩ := by
    decide
  have huseEntry : (Statistics.ofListing Listing.sampleListing).HasEntry .binding (.ofList ["a"]) :=
    (Statistics.hasEntry_ofListing_iff ..).2 ⟨"a", by decide, hdisputed⟩
  refine ⟨⟨_, huse, by decide, huseEntry, (statistics_predict_navigation huse).1 huseEntry⟩, ?_⟩
  exact ⟨_, hdefinition, by decide, by decide,
    (statistics_predict_navigation hdefinition).2 200 .initial hambiguous (.inr (by decide))⟩

end DefUse
