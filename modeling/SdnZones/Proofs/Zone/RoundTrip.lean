-- SUMMARY: What is left of a zone that was laid out as a record and read back.
import SdnZones.Proofs.Zone.Lists
import SdnZones.Proofs.Zone.Rules

/-!
# From a zone to a record and back

Every setting comes back as it was but the lists, of which the filled pieces come back
(`Zone.ofRecord?_toRecord`). A zone is unchanged exactly if all its lists are
`CommaList.Faithful` (`Zone.record_round_trip`). The errors on the way out tell only a part
of what is lost: a comma in an element is reported, an empty element is not
(`Zone.reported_iff_lost_iff`).
-/

namespace SdnZones

/-! ## Lists -/

namespace CommaList

/-- Whether the text of a list is not empty but has an empty piece. -/
def strays (values : Option (List String)) : Bool :=
  match join values with
  | some text => text ≠ "" && (Text.splitString ',' text).contains ""
  | none => false

/-- The warning about a text with an empty piece. -/
def emptyElement (name text : String) : Diagnostic :=
  .warning "Empty List Element" s!"{name} value {Text.quoted text} contains an empty element"

theorem elements_eq_pruned (text : Option String) :
    Record.elements text = pruned (split text) := rfl

theorem elements_some (text : String) :
    Record.elements (some text) = filled? (Text.splitString ',' text) := by
  rw [elements_eq_pruned, pruned_split]

/-- The elements of the text of a list are what a comma list carries of the list. -/
theorem elements_join (values : Option (List String)) :
    Record.elements (join values) = carried values := by
  rw [elements_eq_pruned, pruned_split_join]

theorem strayComma_eq (name : String) (text : Option String) :
    Record.strayComma name text =
      if ((split text).getD []).any String.isEmpty then [emptyElement name (text.getD "")]
      else [] := rfl

theorem strayComma_join (name : String) (values : Option (List String)) :
    Record.strayComma name (join values) =
      if strays values then [emptyElement name ((join values).getD "")] else [] := by
  have same : ((split (join values)).getD []).any String.isEmpty = strays values := by
    rw [strays]
    cases join values with
    | none => rfl
    | some text =>
      by_cases h : text = ""
      · subst h
        rfl
      · rw [split_of_ne h]
        simp [h, List.any_eq]
  rw [strayComma_eq, same]

/-- A list that is set and not empty is carried unchanged if no element is empty or holds a
comma. -/
theorem faithful_iff {values : Option (List String)} (h : values ≠ some []) :
    Faithful values ↔ ∀ v ∈ values.getD [], v ≠ "" ∧ ',' ∉ v.toList := by
  cases values with
  | none => simp [Faithful]
  | some vs =>
    have ne : vs ≠ [] := fun e => h (e ▸ rfl)
    simp [Faithful, ne]

end CommaList

/-! ## The way back -/

/-- The block comes back with what the comma lists carry of its lists. -/
theorem Record.block?_toRecord {z : Zone} {b : Block} (h : z.block = some b) :
    z.toRecord.block? b.kind = some (b.mapLists CommaList.carried) := by
  obtain ⟨_, _, _, _, _, _, _, block⟩ := z
  obtain rfl : block = some b := h
  cases b with
  | vxlan b =>
    show some (Block.vxlan ⟨Record.elements (CommaList.join b.peers), b.port⟩) = _
    rw [CommaList.elements_join]
    rfl
  | evpn b =>
    show some (Block.evpn { b with exitNodes := Record.elements (CommaList.join b.exitNodes) }) = _
    rw [CommaList.elements_join]
    rfl
  | _ => rfl

theorem Record.described_toRecord {z : Zone} {b : Block} (h : z.block = some b) :
    z.toRecord.described = .ok (b.kind, b.mapLists CommaList.carried) := by
  have word : z.toRecord.kind.getD "" = b.kind.name := by simp [Zone.toRecord, h]
  rw [described, word, ZoneKind.ofName?_name]
  simp only [block?_toRecord h]

/-- The comma lists of a record are the texts of the lists that it was made from. -/
theorem Record.commaLists_toRecord {z : Zone} {b : Block} (h : z.block = some b) :
    z.toRecord.commaLists b.kind = z.lists.reverse.map fun l => (l.1, CommaList.join l.2) := by
  obtain ⟨_, _, _, _, _, _, _, block⟩ := z
  obtain rfl : block = some b := h
  cases b <;> rfl

/-- Reading a record only warns. -/
theorem Record.hasError_strayCommas (r : Record) : Diagnostics.hasError r.strayCommas = false := by
  have warns : ∀ name text, Diagnostics.hasError (strayComma name text) = false := by
    intro name text
    rw [CommaList.strayComma_eq]
    split <;> rfl
  unfold strayCommas
  split
  · rfl
  · rename_i k b _
    rw [Diagnostics.hasError, List.any_flatMap, List.any_eq_false]
    intro l _
    rw [Bool.not_eq_true]
    exact warns l.1 l.2

namespace Zone

/-- A zone comes back from its record with what the comma lists carry of its lists. -/
theorem ofRecord?_toRecord {z : Zone} {b : Block} (h : z.block = some b) :
    ofRecord? z.toRecord = .ok (z.mapLists CommaList.carried) := by
  have nodes : Record.elements (z.toRecord.value .nodes) = CommaList.carried z.nodes :=
    CommaList.elements_join z.nodes
  rw [ofRecord?, Record.described_toRecord h, Except.map, nodes, mapLists, h]
  rfl

theorem strayCommas_toRecord {z : Zone} {b : Block} (h : z.block = some b) :
    z.toRecord.strayCommas =
      (z.lists.reverse.filter fun l => CommaList.strays l.2).map fun l =>
        CommaList.emptyElement l.1 ((CommaList.join l.2).getD "") := by
  rw [Record.strayCommas, Record.described_toRecord h]
  simp only [Record.commaLists_toRecord h, List.flatMap_map]
  induction z.lists.reverse with
  | nil => rfl
  | cons l ls ih =>
    rw [List.flatMap_cons, ih, CommaList.strayComma_join, List.filter_cons]
    split <;> rfl

/-- Any zone with a block comes back from its record, with the pieces of its lists that are not
empty. It is as it was exactly if its lists have elements and none of these is empty or holds a
comma. Reading warns of each list whose text has an empty piece, and of nothing else. -/
theorem record_round_trip (z : Zone) (populated : z.isPopulated = true) :
    ofRecord? z.toRecord = .ok (z.mapLists CommaList.carried) ∧
      (ofRecord? z.toRecord = .ok z ↔ ∀ l ∈ z.lists, CommaList.Faithful l.2) ∧
      z.toRecord.strayCommas =
        (z.lists.reverse.filter fun l => CommaList.strays l.2).map (fun l =>
          CommaList.emptyElement l.1 ((CommaList.join l.2).getD "")) ∧
      Diagnostics.hasError z.toRecord.strayCommas = false := by
  obtain ⟨b, hb⟩ := Option.isSome_iff_exists.1 populated
  refine ⟨ofRecord?_toRecord hb, ?_, strayCommas_toRecord hb, Record.hasError_strayCommas _⟩
  rw [ofRecord?_toRecord hb, Except.ok.injEq, mapLists_eq_self_iff]
  exact forall₂_congr fun l _ => CommaList.carried_eq_self_iff

/-- Commas between, before and after the elements, and an element that is empty. -/
theorem stray_round_trip :
    let z : Zone := {
      name := "zone1"
      nodes := some ["pve1,,pve2", ""]
      block := some (.vxlan { peers := some [",10.0.0.1"] }) }
    let back : Zone := {
      name := "zone1"
      nodes := some ["pve1", "pve2"]
      block := some (.vxlan { peers := some ["10.0.0.1"] }) }
    z.isPopulated = true ∧ ofRecord? z.toRecord = .ok back ∧ ofRecord? z.toRecord ≠ .ok z ∧
      z.toRecord.strayCommas.length = 2 := by
  intro z back
  obtain ⟨restored, same_iff, warnings, _⟩ := record_round_trip z rfl
  have carried : z.mapLists CommaList.carried = back := by decide
  refine ⟨rfl, carried ▸ restored, fun same => ?_, ?_⟩
  · have nodes : CommaList.Faithful z.nodes := same_iff.1 same ("nodes", z.nodes) List.mem_cons_self
    exact (nodes _ rfl).2 "" (by decide) |>.1 rfl
  · rw [warnings]
    decide

/-! ## Losses that are reported -/

theorem hasError_unsendable_iff (z : Zone) :
    Diagnostics.hasError z.unsendable = true ↔ ∃ v ∈ z.elements, ',' ∈ v.toList := by
  have element : ∀ name values, Diagnostics.hasError (unsendableElements name values) = true ↔
      ∃ v ∈ values.getD [], ',' ∈ v.toList := by
    intro name values
    simp [unsendableElements, Diagnostics.hasError, Diagnostic.error, Diagnostic.isError]
  rw [Diagnostics.hasError, unsendable, List.any_flatMap, List.any_eq_true]
  constructor
  · rintro ⟨l, hl, h⟩
    obtain ⟨v, hv, comma⟩ := (element l.1 l.2).1 h
    exact ⟨v, mem_elements_iff.2 ⟨l, hl, hv⟩, comma⟩
  · rintro ⟨v, hv, comma⟩
    obtain ⟨l, hl, hv⟩ := mem_elements_iff.1 hv
    exact ⟨l, hl, (element l.1 l.2).2 ⟨v, hv, comma⟩⟩

theorem hasError_unsendable_eq_false_iff (z : Zone) :
    Diagnostics.hasError z.unsendable = false ↔ ∀ v ∈ z.elements, ',' ∉ v.toList := by
  rw [← Bool.not_eq_true, hasError_unsendable_iff]
  simp only [not_exists, not_and]

/-- With its defaults a zone comes back unchanged if no element is empty or holds a comma. -/
theorem restored_iff {z : Zone} (populated : z.isPopulated = true) :
    ofRecord? z.withDefaults.toRecord = .ok z.withDefaults ↔
      Diagnostics.hasError z.withDefaults.unsendable = false ∧ "" ∉ z.withDefaults.elements := by
  obtain ⟨b, hb⟩ := Option.isSome_iff_exists.1 populated
  have block : z.withDefaults.block = some b.withDefaults := by simp [withDefaults, hb]
  rw [ofRecord?_toRecord block, Except.ok.injEq, mapLists_eq_self_iff,
    hasError_unsendable_eq_false_iff]
  have lists : ∀ l ∈ z.withDefaults.lists, CommaList.carried l.2 = l.2 ↔
      ∀ v ∈ l.2.getD [], v ≠ "" ∧ ',' ∉ v.toList := fun l hl =>
    CommaList.carried_eq_self_iff.trans (CommaList.faithful_iff (lists_withDefaults_ne_nil z l hl))
  constructor
  · intro h
    have kept : ∀ v ∈ z.withDefaults.elements, v ≠ "" ∧ ',' ∉ v.toList := by
      intro v hv
      obtain ⟨l, hl, hv⟩ := mem_elements_iff.1 hv
      exact (lists l hl).1 (h l hl) v hv
    exact ⟨fun v hv => (kept v hv).2, fun hv => (kept "" hv).1 rfl⟩
  · rintro ⟨noComma, noEmpty⟩ l hl
    refine (lists l hl).2 fun v hv => ?_
    have hv : v ∈ z.withDefaults.elements := mem_elements_iff.2 ⟨l, hl, hv⟩
    exact ⟨fun e => noEmpty (e ▸ hv), noComma v hv⟩

/-- What a record loses of a zone is reported, and only that is, unless all that is lost are
empty elements: these go unreported. -/
theorem reported_iff_lost_iff (z : Zone) (populated : z.isPopulated = true) :
    (ofRecord? z.withDefaults.toRecord = .ok z.withDefaults ↔
      Diagnostics.hasError z.withDefaults.unsendable = false ∧ "" ∉ z.withDefaults.elements) ∧
    ((Diagnostics.hasError z.withDefaults.unsendable = true ↔
        ofRecord? z.withDefaults.toRecord ≠ .ok z.withDefaults) ↔
      ((∃ v ∈ z.withDefaults.elements, ',' ∈ v.toList) ∨ "" ∉ z.withDefaults.elements)) := by
  refine ⟨restored_iff populated, ?_⟩
  rw [Ne, restored_iff populated, ← hasError_unsendable_iff]
  cases Diagnostics.hasError z.withDefaults.unsendable <;> simp

/-- A comma is reported also if there is an empty element beside it. -/
theorem comma_reported_iff_lost :
    let z : Zone := { name := "zone1", nodes := some ["", "pve1,pve2"], block := some (.vlan {}) }
    z.isPopulated = true ∧ (∃ v ∈ z.withDefaults.elements, ',' ∈ v.toList) ∧
      (Diagnostics.hasError z.withDefaults.unsendable = true ↔
        ofRecord? z.withDefaults.toRecord ≠ .ok z.withDefaults) := by
  intro z
  have comma : ∃ v ∈ z.withDefaults.elements, ',' ∈ v.toList := ⟨"pve1,pve2", by decide, by decide⟩
  exact ⟨rfl, comma, (reported_iff_lost_iff z rfl).2.2 (.inl comma)⟩

/-- An empty element is lost without a word: with its defaults filled in, this zone has no
error, and yet it comes back without it. -/
theorem empty_element_lost_silently :
    let z : Zone := {
      name := "zone1"
      nodes := some ["pve1", ""]
      ipam := some "pve"
      block := some (.simple {}) }
    let back : Zone := { z with nodes := some ["pve1"] }
    z.isPopulated = true ∧ z.withDefaults = z ∧ Diagnostics.hasError z.unsendable = false ∧
      ofRecord? z.toRecord = .ok back ∧ back ≠ z := by
  intro z back
  refine ⟨rfl, by decide, by decide, ?_, by decide⟩
  rw [ofRecord?_toRecord rfl]
  rfl

end Zone

end SdnZones
