-- SUMMARY: What is read back of the texts with commas in records and in updates.
import SdnZones.Proofs.Zone.Partition

/-!
# Texts with commas

The lists of a record and the names that an update clears are both written with commas between
them, but the empty text is read differently: in a record it is no list, in an update it is one
empty name (`UpdateRequest.deletedFields_eq_split_iff`). A record therefore loses a list of one
empty element, and an update does not (`comma_lists_read_back`).
-/

namespace SdnZones

namespace UpdateRequest

/-- The names that an update clears are its text read as the list of a record, unless that text is
empty. -/
theorem deletedFields_eq_split_iff {u : UpdateRequest} :
    u.deletedFields = (CommaList.split u.delete).getD [] ↔ u.delete ≠ some "" := by
  constructor
  · intro same empty
    rw [deletedFields, empty] at same
    cases same
  · intro filled
    rw [deletedFields]
    cases h : u.delete with
    | none => rfl
    | some names =>
      have ne : names ≠ "" := fun e => filled (h.trans (congrArg some e))
      rw [CommaList.split_of_ne ne, Option.getD_some]

theorem deletedFields_new_eq_self_iff {record : Record} {names : List String} :
    (new record names).deletedFields = names ↔ ∀ name ∈ names, ',' ∉ name.toList := by
  rw [deletedFields_new, Text.flatMap_splitString_eq_self_iff]

end UpdateRequest

/-- A text is restored from its list unless it is empty. A list is restored from its text if it is
absent, or if it has elements, none of them with a comma, and is not a single empty one. The names
that an update clears are the pieces of the names that it was made with, in order, so they are those
names exactly if none of them has a comma. -/
theorem comma_lists_read_back (text : String) (values : Option (List String)) (record : Record)
    (names : List String) :
    (CommaList.join (CommaList.split (some text)) = some text ↔ text ≠ "") ∧
    (CommaList.split (CommaList.join values) = values ↔
      values = none ∨
        ∃ vs, values = some vs ∧ vs ≠ [] ∧ vs ≠ [""] ∧ ∀ v ∈ vs, ',' ∉ v.toList) ∧
    (∀ pieces, Text.splitString ',' text = pieces ↔ Text.Pieces ',' text pieces) ∧
    (UpdateRequest.new record names).deletedFields = names.flatMap (Text.splitString ',') ∧
    ((UpdateRequest.new record names).deletedFields = names ↔
      ∀ name ∈ names, ',' ∉ name.toList) := by
  refine ⟨?_, CommaList.split_join_eq_self_iff, fun _ => Text.splitString_eq_iff,
    UpdateRequest.deletedFields_new record names, UpdateRequest.deletedFields_new_eq_self_iff⟩
  rw [CommaList.join_split_eq_self_iff, Ne, Option.some.injEq]

/-- One empty element is lost where two are not, and not lost among names to clear. -/
theorem lone_empty_element_lost :
    CommaList.join (CommaList.split (some ",")) = some "," ∧
      CommaList.split (CommaList.join (some [""])) ≠ some [""] ∧
      CommaList.split (CommaList.join (some ["", ""])) = some ["", ""] ∧
      Text.Pieces ',' "," ["", ""] ∧
      (UpdateRequest.new (Record.named "z1") [""]).deletedFields = [""] ∧
      (UpdateRequest.new (Record.named "z1") ["mtu,nodes", ""]).deletedFields =
        ["mtu", "nodes", ""] := by
  obtain ⟨restored, lone, pieces, _, named⟩ :=
    comma_lists_read_back "," (some [""]) (Record.named "z1") [""]
  obtain ⟨_, twice, _, cleared, _⟩ :=
    comma_lists_read_back "," (some ["", ""]) (Record.named "z1") ["mtu,nodes", ""]
  refine ⟨restored.2 (by decide), fun kept => ?_, ?_, (pieces ["", ""]).1 (by decide),
    named.2 (by decide), cleared.trans (by decide)⟩
  · rcases lone.1 kept with absent | ⟨vs, same, _, ne_lone, _⟩
    · cases absent
    · exact ne_lone (Option.some.inj same).symm
  · exact twice.2 (.inr ⟨["", ""], rfl, by decide, by decide, by decide⟩)

end SdnZones
