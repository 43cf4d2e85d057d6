-- SUMMARY: The printed document of a zone is read as that zone, from a text and from a file.
import SdnZones.Proofs.Document.Codec
import SdnZones.Proofs.Json.RoundTrip
import SdnZones.Proofs.Text.Utf8
import SdnZones.Zone.DocumentFile

/-!
# Texts of documents

All that stands in the document of a zone is read as it was printed (`Zone.fits_toJson`), so the
printed document, as a whole file too, is read as the zone that it is of
(`Document.ofFile_pretty`).
-/

namespace SdnZones

/-! ## What stands in documents -/

theorem SettingKind.fits_encode (k : SettingKind) (x : k.Value) : (k.encode x).Fits 1 := by
  cases k with
  | text => exact ⟨trivial, Nat.zero_le _⟩
  | flag => exact ⟨trivial, Nat.zero_le _⟩
  | integer =>
    refine ⟨?_, Nat.zero_le _⟩
    have low := Int32.le_toInt x
    have high := Int32.toInt_lt x
    show -9223372036854775808 ≤ Int32.toInt x ∧ Int32.toInt x ≤ 18446744073709551615
    omega
  | texts =>
    constructor
    · exact Json.exactItems_iff.2 (List.forall_mem_map.2 fun _ _ => trivial)
    · exact Nat.succ_le_succ (Json.depthItems_le_iff.2 (List.forall_mem_map.2 fun _ _ =>
        Nat.le_refl 0))

theorem Setting.fits_of_mem_member {σ : Type} {s : Setting σ} {t : σ} {e : String × Json}
    (h : e ∈ s.member t) : e.2.Fits 1 := by
  obtain ⟨x, _, rfl⟩ := Option.map_eq_some_iff.1 (Option.mem_toList.1 h)
  exact s.kind.fits_encode x

/-- Every block is one of those of some form. -/
theorem BlockForm.exists_wrap (b : Block) : ∃ (B : BlockForm) (own : B.Own), B.wrap own = b := by
  cases b with
  | simple b => exact ⟨.simple, b, rfl⟩
  | vlan b => exact ⟨.vlan, b, rfl⟩
  | vxlan b => exact ⟨.vxlan, b, rfl⟩
  | qinq b => exact ⟨.qinq, b, rfl⟩
  | evpn b => exact ⟨.evpn, b, rfl⟩

theorem Block.fits_of_mem_members {b : Block} {e : String × Json} (h : e ∈ b.members) :
    e.2.Fits 1 := by
  obtain ⟨B, own, rfl⟩ := BlockForm.exists_wrap b
  rw [B.members_wrap] at h
  obtain ⟨s, _, h⟩ := List.mem_flatMap.1 h
  exact Setting.fits_of_mem_member h

/-- The document of a zone is read as it was printed. -/
theorem Zone.fits_toJson (z : Zone) : z.toJson.Fits 3 := by
  rw [← Document.encode_ofZone .jsonText z, Form.encode, Document.members_eq]
  refine .object (List.forall_mem_cons.2 ⟨⟨trivial, Nat.zero_le _⟩, List.forall_mem_append.2
    ⟨fun e he => ?_, List.forall_mem_map.2 fun b _ => .object fun e he => ?_⟩⟩)
  · obtain ⟨s, _, he⟩ := List.mem_flatMap.1 he
    exact (Setting.fits_of_mem_member he).mono (by decide)
  · exact Block.fits_of_mem_members he

/-! ## Reading documents -/

namespace Document

/-- The printed document of a zone, with white space after it, is read as the zone. -/
theorem ofJsonText_pretty (z : Zone) (blanks : List Char)
    (spaces : ∀ c ∈ blanks, Json.isSpace c = true) :
    ofJsonText (z.toJson.pretty ++ String.ofList blanks) = .ok z := by
  rw [ofJsonText, Json.read_pretty (z.fits_toJson.mono (by decide)) spaces]
  simp only [read_toJson, if_true]

/-- Whether a path names a file in JSON. -/
def IsJsonPath (path : String) : Prop :=
  (FileName.extension? path).bind FileFormat.ofExtension? = some .json

instance : DecidablePred IsJsonPath := fun path =>
  inferInstanceAs (Decidable ((FileName.extension? path).bind FileFormat.ofExtension? = some .json))

theorem ofFile_of_text {path text : String} {z : Zone} (json : IsJsonPath path)
    (read : ofJsonText text = .ok z) : ofFile path (some (Utf8.bytesOf text)) = .ok z := by
  rw [IsJsonPath] at json
  simp only [ofFile, Utf8.decode?_bytesOf, json, ofText, read]
  rfl

/-- A file that holds the printed document of a zone, or the line of it, is read as the zone. -/
theorem ofFile_pretty {path : String} (json : IsJsonPath path) (z : Zone) :
    ofFile path (some (Utf8.bytesOf z.toJson.pretty)) = .ok z ∧
      ofFile path (some (Utf8.bytesOf (z.toJson.pretty ++ "\n"))) = .ok z := by
  constructor
  · have bare := ofJsonText_pretty z [] (List.forall_mem_nil _)
    rw [String.ofList_nil, String.append_empty] at bare
    exact ofFile_of_text json bare
  · exact ofFile_of_text json (ofJsonText_pretty z ['\n'] (List.forall_mem_singleton.2 rfl))

end Document

end SdnZones
