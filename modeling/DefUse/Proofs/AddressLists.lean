import DefUse.Proofs.Ancestry
import DefUse.Proofs.ReportText
import DefUse.Proofs.TextWords

/-!
# Address lists in print

An element has its addresses from a text with commas, and a report prints them with commas between brackets. The
main statement is that printing loses nothing: addresses that are nonempty and have no comma are read back from
their join, all addresses that are read are such, and so what stands between the brackets of any printed element
reads as the addresses of the element.
-/

namespace DefUse

/-! ## Addresses with commas between them -/

/-- An address that can stand in a list with commas: it is nonempty and has no comma. -/
def IsListable (address : Address) : Prop := address ≠ "" ∧ ',' ∉ address.toList

instance (address : Address) : Decidable (IsListable address) := inferInstanceAs (Decidable (_ ∧ _))

theorem mem_addressesOf_iff {raw : String} {address : Address} :
    address ∈ addressesOf raw ↔ Text.IsSegment (· == ',') address.toList raw.toList := by
  rw [← Text.mem_segments_iff]
  unfold addressesOf
  rw [List.mem_map]
  constructor
  · rintro ⟨segment, hsegment, rfl⟩
    rwa [String.toList_ofList]
  · intro h
    exact ⟨_, h, String.ofList_toList⟩

theorem isListable_of_mem_addressesOf {raw : String} {address : Address} (h : address ∈ addressesOf raw) :
    IsListable address := by
  obtain ⟨-, -, -, hne, hcomma, -⟩ := mem_addressesOf_iff.1 h
  refine ⟨fun hempty ↦ hne (by rw [hempty]; rfl), fun hmem ↦ ?_⟩
  simpa using hcomma ',' hmem

theorem addressesOf_intercalate {addresses : List Address} (h : ∀ address ∈ addresses, IsListable address) :
    addressesOf (",".intercalate addresses) = addresses := by
  have hsegments : ∀ text ∈ addresses.map String.toList, text ≠ [] ∧ ∀ c ∈ text, (c == ',') = false := by
    rw [List.forall_mem_map]
    intro address haddress
    obtain ⟨hne, hcomma⟩ := h address haddress
    refine ⟨fun hnil ↦ hne (String.toList_eq_nil_iff.1 hnil), fun c hc ↦ ?_⟩
    rw [beq_eq_false_iff_ne]
    exact fun heq ↦ hcomma (heq ▸ hc)
  calc addressesOf (",".intercalate addresses)
      = (Text.segments (· == ',') ([','].intercalate (addresses.map String.toList))).map String.ofList := by
        rw [addressesOf, String.toList_intercalate]
        rfl
    _ = (addresses.map String.toList).map String.ofList := by rw [Text.segments_intercalate rfl hsegments]
    _ = addresses := by simp [Function.comp_def]

namespace Listing

/-- The addresses of an element have been read from a text. -/
theorem exists_addressesOf_eq {source : String} {listing : Listing} (h : ofText source = .ok listing)
    {element : Element} (helement : element ∈ listing.elements) : ∃ raw, element.addresses = addressesOf raw := by
  obtain ⟨outline, -, houtline⟩ := ofText_eq_ok_iff.1 h
  obtain ⟨row, -, draft, above, -, heq⟩ := (mem_elements_iff_isPath houtline).1 helement
  exact ⟨draft.address, by rw [heq]; rfl⟩

end Listing

/-! ## Printed elements -/

namespace Report

/-- Nonempty addresses without commas are read back from their join, as they are and in their order. Whatever text
addresses are read from, they are such, and reading their join again changes nothing. So in every report on a listing
that is read, what each line of a marked element has between its brackets reads as the addresses of the element, and
every marked element of a visible row has its line. -/
theorem addresses_survive_printing :
    (∀ addresses : List Address, (∀ address ∈ addresses, IsListable address) →
      addressesOf (",".intercalate addresses) = addresses) ∧
    (∀ raw : String, (∀ address ∈ addressesOf raw, IsListable address) ∧
      addressesOf (",".intercalate (addressesOf raw)) = addressesOf raw) ∧
    ∀ (source : String) (listing : Listing), Listing.ofText source = .ok listing → ∀ transition : Transition,
      (ofTransition listing transition).text listing =
        String.join ((Line.ofTransition listing transition).map fun line ↦ line.text ++ "\n") ∧
      (∀ element mark, .marked element mark ∈ Line.ofTransition listing transition ↔
        element ∈ listing.elements ∧ transition.view.isVisible element.row = true ∧
          transition.view.markOf element.id = some mark) ∧
      ∀ element mark, .marked element mark ∈ Line.ofTransition listing transition → ∃ body : String,
        (Line.marked element mark).text =
          "      | " ++ padRight 4 mark.name ++ " " ++ element.id ++ " " ++ Text.quoted element.text ++
            " [" ++ body ++ "]" ∧
        addressesOf body = element.addresses := by
  have hread (raw : String) : addressesOf (",".intercalate (addressesOf raw)) = addressesOf raw :=
    addressesOf_intercalate fun _ ↦ isListable_of_mem_addressesOf
  refine ⟨fun _ ↦ addressesOf_intercalate, fun raw ↦ ⟨fun _ ↦ isListable_of_mem_addressesOf, hread raw⟩,
    fun source listing hsource transition ↦ ?_⟩
  have hlisting : listing.WellFormed := .ofText hsource
  refine ⟨text_ofTransition transition hlisting,
    fun element mark ↦ Line.marked_mem_ofTransition_iff transition hlisting, fun element mark hline ↦ ?_⟩
  obtain ⟨helement, -⟩ := (Line.marked_mem_ofTransition_iff transition hlisting).1 hline
  obtain ⟨raw, hraw⟩ := Listing.exists_addressesOf_eq hsource helement
  exact ⟨",".intercalate element.addresses, rfl, by rw [hraw, hread]⟩

/-- The element of the sample with two addresses. -/
def sampleElement : Element := ⟨"w", none, 2, "", ["a", "b"], [.navigable .binding .definition]⟩

/-- Blanks and repeats are kept, and of the sample the element with two addresses is printed with both. -/
theorem addresses_survive_printing_sample :
    (∀ address ∈ [" a", "b c", " a"], IsListable address) ∧
    addressesOf " a,b c, a" = [" a", "b c", " a"] ∧
    Listing.ofText Listing.sampleSource = .ok Listing.sampleListing ∧
    .marked sampleElement .target ∈ Line.ofTransition Listing.sampleListing sampleTransition ∧
    ∃ body : String, (Line.marked sampleElement .target).text = "      | goto w \"\" [" ++ body ++ "]" ∧
      addressesOf body = ["a", "b"] := by
  obtain ⟨hjoin, -, hprinted⟩ := addresses_survive_printing
  have hlistable : ∀ address ∈ [" a", "b c", " a"], IsListable address := by decide +kernel
  obtain ⟨-, hlines, hbody⟩ := hprinted _ _ Listing.ofText_sampleSource sampleTransition
  have hline : .marked sampleElement .target ∈ Line.ofTransition Listing.sampleListing sampleTransition :=
    (hlines _ _).2 ⟨by decide +kernel, by decide +kernel, by decide +kernel⟩
  obtain ⟨body, htext, haddresses⟩ := hbody sampleElement .target hline
  have hhead : "      | " ++ padRight 4 Mark.target.name ++ " " ++ sampleElement.id ++ " " ++
      Text.quoted sampleElement.text ++ " [" = "      | goto w \"\" [" := by decide +kernel
  exact ⟨hlistable, hjoin _ hlistable, Listing.ofText_sampleSource, hline, body, by rw [htext, hhead], haddresses⟩

end Report

end DefUse
