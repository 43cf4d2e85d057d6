-- SUMMARY: Listing gives every record of the answer once, by name, and of a cluster its zones.
import Mathlib.Data.List.Nodup
import Mathlib.Data.List.Perm.Basic
import SdnZones.Proofs.Api.Cluster

/-!
# Listing

An answer to a list request that holds decodable records is listed as these records, none lost or
added, in ascending order of their names and otherwise as they stood (`Record.Sorts`). Records of
different names come out the same in whatever order the answer has them
(`Record.Sorts.eq_of_perm`). The cases of an answer, and what a cluster lists, are in
`Zones.listing`.
-/

namespace SdnZones

/-! ## The order of names -/

namespace Text

/-- The code points of a text. -/
def codePoints (s : String) : List Nat := s.toList.map Char.toNat

/-- A text comes before another one in the order of code points, or is the same. -/
def NotAfter (s t : String) : Prop := List.Lex (· < ·) (codePoints s) (codePoints t) ∨ s = t

theorem lex_toNat_iff {cs ds : List Char} :
    List.Lex (· < ·) (cs.map Char.toNat) (ds.map Char.toNat) ↔ cs < ds := by
  induction cs generalizing ds with
  | nil => cases ds <;> simp
  | cons c cs ih =>
    cases ds with
    | nil => simp
    | cons d ds =>
      rw [List.map_cons, List.map_cons, List.cons_lex_cons_iff, List.cons_lt_cons_iff, ih,
        Char.toNat_inj]
      rfl

/-- Texts are compared by their code points. -/
theorem notAfter_iff {s t : String} : NotAfter s t ↔ s ≤ t := by
  have before : ∀ {s t : String}, List.Lex (· < ·) (codePoints s) (codePoints t) ↔ s < t :=
    lex_toNat_iff
  rw [NotAfter, before]
  constructor
  · rintro (lt | rfl)
    · exact String.not_lt.1 (String.lt_asymm lt)
    · exact String.le_refl s
  · intro le
    obtain lt | same | gt := Dict.lt_or_eq_or_gt s t
    · exact .inl lt
    · exact .inr same
    · exact absurd gt (String.not_lt.2 le)

end Text

namespace Record

/-- Records in ascending order of their names, those of one name in the order in which they were
given. -/
structure Sorts (given listed : List Record) : Prop where
  perm : listed.Perm given
  ascending : listed.Pairwise fun a b => Text.NotAfter a.zone b.zone
  stable : ∀ name, listed.filter (·.zone = name) = given.filter (·.zone = name)

theorem sorts_mergeSort (given : List Record) : Sorts given (given.mergeSort Zones.byName) := by
  have trans : ∀ a b c : Record, Zones.byName a b = true → Zones.byName b c = true →
      Zones.byName a c = true := by
    simp only [Zones.byName, decide_eq_true_eq]
    exact fun _ _ _ => String.le_trans
  have total : ∀ a b : Record, (Zones.byName a b || Zones.byName b a) = true := by
    simp only [Zones.byName, Bool.or_eq_true, decide_eq_true_eq]
    exact fun a b => String.le_total a.zone b.zone
  have perm := List.mergeSort_perm given Zones.byName
  refine ⟨perm, ?_, fun name => ?_⟩
  · refine (List.pairwise_mergeSort trans total given).imp fun {a b} le => ?_
    exact Text.notAfter_iff.2 (of_decide_eq_true le)
  · -- records of one name are in order as they stand, so sorting keeps them in this order
    have inOrder : (given.filter (·.zone = name)).Pairwise fun a b => Zones.byName a b = true := by
      refine List.pairwise_of_forall_mem_list fun a ha b hb => ?_
      simp only [List.mem_filter, decide_eq_true_eq] at ha hb
      rw [Zones.byName, ha.2, hb.2]
      exact decide_eq_true (String.le_refl name)
    have kept := List.sublist_mergeSort trans total inOrder List.filter_sublist
    have all := kept.filter (·.zone = name)
    rw [List.filter_filter] at all
    simp only [Bool.and_self] at all
    exact (all.eq_of_length (perm.filter _).length_eq.symm).symm

/-- Records of different names have one order only. -/
theorem Sorts.eq_of_perm {given given' listed listed' : List Record} (sorts : Sorts given listed)
    (sorts' : Sorts given' listed') (perm : given.Perm given')
    (distinct : (given.map (·.zone)).Nodup) : listed = listed' := by
  have all : listed.Perm listed' := sorts.perm.trans (perm.trans sorts'.perm.symm)
  refine List.Perm.eq_of_pairwise (fun a b ha hb le ge => ?_) sorts.ascending sorts'.ascending all
  have name : a.zone = b.zone :=
    String.le_antisymm (Text.notAfter_iff.1 le) (Text.notAfter_iff.1 ge)
  have nodup : (listed.map (·.zone)).Nodup := (sorts.perm.map _).nodup_iff.2 distinct
  exact List.inj_on_of_nodup_map nodup ha (all.mem_iff.2 hb) name

end Record

/-! ## Answers -/

/-- An object has data under that name, or null if there is nothing under it. -/
inductive Json.HasData : Json → Json → Prop where
  | present {members : List (String × Json)} {data : Json} (distinct : (members.map (·.1)).Nodup)
    (found : ("data", data) ∈ members) : HasData (.object members) data
  | missing {members : List (String × Json)} (absent : "data" ∉ members.map (·.1)) :
    HasData (.object members) .null

/-- Each item is decoded to the record at its place. -/
def Record.Decoded (items : List Json) (records : List Record) : Prop :=
  List.Forall₂ (fun v r => ofJson v = .ok r) items records

/-- Items can be decoded together exactly if each of them can. -/
theorem Record.exists_decoded_iff {items : List Json} :
    (∃ records, Decoded items records) ↔ ∀ v ∈ items, ∃ r, ofJson v = .ok r := by
  induction items with
  | nil => simp [Decoded]
  | cons v items ih =>
    rw [List.forall_mem_cons, ← ih]
    simp only [Decoded, List.forall₂_cons_left_iff]
    constructor
    · rintro ⟨_, r, records, first, others, rfl⟩
      exact ⟨⟨r, first⟩, records, others⟩
    · rintro ⟨⟨r, first⟩, records, others⟩
      exact ⟨_, r, records, first, others, rfl⟩

section

variable {α : Type} {title : String} {decode : Json → Except DecodeFault α}

theorem visit_of_no_data {seen : List String} {x : Option α} {members : List (String × Json)}
    (absent : "data" ∉ members.map (·.1)) :
    (dataLayout title decode).visit none seen x members = .ok x := by
  induction members with
  | nil => rfl
  | cons member members ih =>
    obtain ⟨name, v⟩ := member
    rw [List.map_cons, List.mem_cons, not_or] at absent
    rw [visit_data_cons_of_ne (Ne.symm absent.1)]
    exact ih absent.2

theorem visit_data {x : Option α} {members : List (String × Json)} {data : Json}
    (distinct : (members.map (·.1)).Nodup) (found : ("data", data) ∈ members) :
    (dataLayout title decode).visit none [] x members = Json.decodeOptional decode data := by
  induction members with
  | nil => cases found
  | cons member members ih =>
    obtain ⟨name, v⟩ := member
    obtain ⟨fresh, distinct⟩ := List.nodup_cons.1 distinct
    rcases List.mem_cons.1 found with same | later
    · cases same
      have reader : (dataLayout title decode).readers.find? (·.name == "data") =
          some ⟨"data", fun v => (Json.decodeOptional decode v).map fun x _ => x⟩ := rfl
      rw [Layout.visit, reader]
      cases h : Json.decodeOptional decode data with
      | error fault => simp [h, Except.map]
      | ok y => simp [h, Except.map, visit_of_no_data fresh]
    · have other : name ≠ "data" := by
        rintro rfl
        exact fresh (List.mem_map.2 ⟨_, later, rfl⟩)
      rw [visit_data_cons_of_ne other]
      exact ih distinct later

/-- What an answer is decoded to is decided by its data. -/
theorem ofJson_of_hasData {body data : Json} (has : body.HasData data) :
    (dataLayout title decode).ofJson none body = Json.decodeOptional decode data := by
  cases has with
  | present distinct found => exact visit_data distinct found
  | missing absent => exact visit_of_no_data absent

theorem mapM_eq_ok_iff {items : List Json} {xs : List α} :
    items.mapM decode = .ok xs ↔ List.Forall₂ (fun v x => decode v = .ok x) items xs := by
  induction items generalizing xs with
  | nil => simp [pure, Except.pure, eq_comm]
  | cons v items ih =>
    rw [List.mapM_cons, List.forall₂_cons_left_iff]
    simp only [← ih]
    cases decode v with
    | error fault => simp [bind, Except.bind]
    | ok x =>
      cases items.mapM decode with
      | error fault => simp [bind, Except.bind]
      | ok xs => simp [bind, Except.bind, pure, Except.pure, eq_comm]

end

namespace Zones

variable {σ : Type} {t : Transport σ} {s : σ} {kind : Option ZoneKind} {body : Json}
  {items : List Json} {records : List Record}

theorem listed_of_decoded (has : body.HasData (.array items))
    (decoded : Record.Decoded items records) : listed body = .ok (records.mergeSort byName) := by
  have read : Record.ofListAnswer body = .ok (some records) := by
    rw [Record.ofListAnswer, ofJson_of_hasData has]
    show (items.mapM Record.ofJson).map some = _
    rw [mapM_eq_ok_iff.2 decoded]
    rfl
  rw [listed, read]

theorem listed_of_null (has : body.HasData .null) : listed body = .error .noData := by
  have read : Record.ofListAnswer body = .ok none := by
    rw [Record.ofListAnswer, ofJson_of_hasData has]
    rfl
  rw [listed, read]

theorem listed_of_undecodable (has : body.HasData (.array items))
    (undecodable : ∃ v ∈ items, ∀ r, Record.ofJson v ≠ .ok r) :
    ∃ fault, listed body = .error (.decode "listing SDN zones" fault) := by
  have read : Record.ofListAnswer body = (items.mapM Record.ofJson).map some := by
    rw [Record.ofListAnswer, ofJson_of_hasData has]
    rfl
  rw [listed, read]
  cases together : items.mapM Record.ofJson with
  | error fault => exact ⟨fault, rfl⟩
  | ok records =>
    obtain ⟨v, hv, refused⟩ := undecodable
    obtain ⟨r, decoded⟩ := Record.exists_decoded_iff.1 ⟨records, mapM_eq_ok_iff.1 together⟩ v hv
    exact absurd decoded (refused r)

theorem run_list {response : Response} (replied : (t.call (listRequest kind) s).1 = .ok response) :
    ((list kind).run t s).1 = listed response.body := by
  rw [list, Procedure.run]
  simp only [replied]
  rfl

/-- The request to list is answered by an object that has this data. -/
def Answered (t : Transport σ) (s : σ) (kind : Option ZoneKind) (data : Json) : Prop :=
  ∃ response, (t.call (listRequest kind) s).1 = .ok response ∧ response.body.HasData data

end Zones

/-! ## Clusters -/

namespace Cluster

/-- The stored zones whose type is a kind, or all of them, by ascending name. -/
def storedOf (c : Cluster) (kind : Option ZoneKind) : List (String × Dict Json) :=
  c.zones.toList.filter fun e => kind.all fun k => e.2.get? "type" = some (.text k.name)

theorem matchesKind_listRequest (kind : Option ZoneKind) (fields : Dict Json) :
    matchesKind (Zones.listRequest kind).query fields =
      kind.all fun k => decide (fields.get? "type" = some (.text k.name)) := by
  cases kind with
  | none => rfl
  | some k =>
    have asked : (Zones.listRequest (some k)).query.get? "type" = some k.name := by
      rw [Zones.listRequest, Request.withQuery, Dict.get?_insert, if_pos rfl]
    rw [matchesKind, asked, Option.all_some]
    cases fields.get? "type" with
    | none => rfl
    | some v => cases v <;> simp [Json.text?, Bool.beq_eq_decide_eq]

theorem answer_list (c : Cluster) (kind : Option ZoneKind) :
    answer c.zones (Zones.listRequest kind) =
      (.ok (.ok (.object [("data", .array ((c.storedOf kind).reverse.map fun e => .ofDict e.2))])),
        c.zones) := by
  have path : (Zones.listRequest kind).path = zonesRoot := by cases kind <;> rfl
  have method : (Zones.listRequest kind).method = .get := by cases kind <;> rfl
  have shown : listing c.zones (Zones.listRequest kind).query =
      (c.storedOf kind).reverse.map fun e => .ofDict e.2 := by
    rw [listing, List.filter_map, ← List.map_reverse, List.map_map]
    simp only [Function.comp_def, matchesKind_listRequest]
    rfl
  rw [answer, if_pos path, method, shown]

theorem answered_list {c : Cluster} (calm : c.queued = []) (kind : Option ZoneKind) :
    Zones.Answered transport c kind
      (.array ((c.storedOf kind).reverse.map fun e => .ofDict e.2)) := by
  have replied : (transport.call (Zones.listRequest kind) c).1 = .ok (.ok (.object
      [("data", .array ((c.storedOf kind).reverse.map fun e => .ofDict e.2))])) := by
    rw [call_of_calm calm, answer_list]
  exact ⟨_, replied, .present (List.nodup_singleton "data") List.mem_cons_self⟩

theorem after_list {c : Cluster} (calm : c.queued = []) (kind : Option ZoneKind) :
    ((Zones.list kind).run transport c).2 = c.after (Zones.listRequest kind) c.zones := by
  rw [Zones.list, Procedure.run, call_of_calm calm, answer_list]
  rfl

/-- If every stored zone can be decoded, so can those of a kind. -/
theorem exists_decoded_storedOf {c : Cluster} (kind : Option ZoneKind)
    (decodable : ∀ name fields, c.zones.get? name = some fields →
      ∃ r, Record.ofJson (.ofDict fields) = .ok r) :
    ∃ stored, Record.Decoded ((c.storedOf kind).map fun e => .ofDict e.2) stored := by
  refine Record.exists_decoded_iff.2 fun v hv => ?_
  obtain ⟨e, he, rfl⟩ := List.mem_map.1 hv
  have held : c.zones.get? e.1 = some e.2 :=
    (Dict.find?_eq_some_iff c.zones.nodup_names).2 (List.mem_of_mem_filter he)
  exact decodable e.1 e.2 held

end Cluster

/-! ## All of it -/

namespace Zones

variable {σ : Type}

theorem list_of_decoded {t : Transport σ} {s : σ} {kind : Option ZoneKind} {items : List Json}
    {records : List Record} (answered : Answered t s kind (.array items))
    (decoded : Record.Decoded items records) :
    ((list kind).run t s).1 = .ok (records.mergeSort byName) := by
  obtain ⟨response, replied, has⟩ := answered
  rw [run_list replied, listed_of_decoded has decoded]

/-- An answer with decodable records is listed as these, by name; records of different names come
out the same whatever order two answers have them in. An answer without data is told from one that
cannot be decoded, be it for one item only. A cluster lists the zones of a kind, or all its zones,
and stays as it is. -/
theorem listing (t : Transport σ) (s : σ) (kind : Option ZoneKind) :
    (∀ items records, Answered t s kind (.array items) → Record.Decoded items records →
      ∃ listed, ((list kind).run t s).1 = .ok listed ∧ Record.Sorts records listed) ∧
    (∀ {τ : Type} (t' : Transport τ) (s' : τ) (kind' : Option ZoneKind) items items' records,
      Answered t s kind (.array items) → Answered t' s' kind' (.array items') →
      items.Perm items' → Record.Decoded items records → (records.map (·.zone)).Nodup →
      ((list kind').run t' s').1 = ((list kind).run t s).1) ∧
    (Answered t s kind .null → ((list kind).run t s).1 = .error .noData) ∧
    (∀ items, Answered t s kind (.array items) → (∃ v ∈ items, ∀ r, Record.ofJson v ≠ .ok r) →
      ∃ fault, ((list kind).run t s).1 = .error (.decode "listing SDN zones" fault)) ∧
    ∀ c : Cluster, c.queued = [] →
      (∀ name fields, c.zones.get? name = some fields →
        ∃ r, Record.ofJson (.ofDict fields) = .ok r) →
      ∃ stored listed,
        Record.Decoded ((c.storedOf kind).map fun e => .ofDict e.2) stored ∧
        Record.Sorts stored.reverse listed ∧
        (list kind).run Cluster.transport c = (.ok listed, c.after (listRequest kind) c.zones) := by
  refine ⟨fun items records answered decoded => ?_, fun t' s' kind' items items' records answered
    answered' perm decoded distinct => ?_, ?_, ?_, fun c calm decodable => ?_⟩
  · exact ⟨_, list_of_decoded answered decoded, Record.sorts_mergeSort records⟩
  · obtain ⟨records', decoded', same⟩ := List.perm_comp_forall₂ perm.symm decoded
    rw [list_of_decoded answered decoded, list_of_decoded answered' decoded']
    exact congrArg _ ((Record.sorts_mergeSort records).eq_of_perm
      (Record.sorts_mergeSort records') same.symm distinct).symm
  · rintro ⟨response, replied, has⟩
    rw [run_list replied, listed_of_null has]
  · rintro items ⟨response, replied, has⟩ undecodable
    rw [run_list replied]
    exact listed_of_undecodable has undecodable
  · obtain ⟨stored, decoded⟩ := Cluster.exists_decoded_storedOf kind decodable
    have shown : Record.Decoded ((c.storedOf kind).reverse.map fun e => .ofDict e.2)
        stored.reverse := by
      rw [List.map_reverse]
      exact List.forall₂_reverse_iff.2 decoded
    have listed := list_of_decoded (Cluster.answered_list calm kind) shown
    exact ⟨stored, _, decoded, Record.sorts_mergeSort _,
      Prod.ext listed (Cluster.after_list calm kind)⟩

/-- Two zones of one name are listed in the order of the answer, after one of a lower name. -/
theorem mixed_answer_listed :
    let item (zone kind : String) : Json := .object [("type", .text kind), ("zone", .text zone)]
    let record (zone kind : String) : Record := { Record.named zone with kind := some kind }
    let answering (body : Json) : Transport Unit :=
      { call := fun _ s => (.ok (.ok body), s), health := fun s => (.ok true, s) }
    let answer (items : List Json) : Transport Unit := answering (.object [("data", .array items)])
    let fields (zone kind : String) : Dict Json :=
      .ofList [("zone", .text zone), ("type", .text kind)]
    let c : Cluster := {
      zones := (Dict.empty.insert "a" (fields "a" "vlan")).insert "b" (fields "b" "simple") }
    (∃ listed, ((list none).run
        (answer [item "b" "faucet", item "a" "vlan", item "b" "simple"]) ()).1 = .ok listed ∧
      Record.Sorts [record "b" "faucet", record "a" "vlan", record "b" "simple"] listed) ∧
    ((list none).run (answer [item "a" "vlan", item "b" "simple"]) ()).1 =
      ((list none).run (answer [item "b" "simple", item "a" "vlan"]) ()).1 ∧
    ((list none).run (answering (.object [])) ()).1 = .error .noData ∧
    (∃ fault, ((list none).run (answer [item "a" "vlan", .null]) ()).1 =
      .error (.decode "listing SDN zones" fault)) ∧
    ∃ stored listed,
      Record.Decoded [.ofDict (fields "a" "vlan")] stored ∧ Record.Sorts stored.reverse listed ∧
      ((list (some .vlan)).run Cluster.transport c).1 = .ok listed := by
  intro item record answering answer fields c
  have answered : ∀ items, Answered (answer items) () none (.array items) := fun items =>
    ⟨_, rfl, .present (List.nodup_singleton "data") List.mem_cons_self⟩
  have decoded : ∀ zone kind, Record.ofJson (item zone kind) = .ok (record zone kind) :=
    fun _ _ => rfl
  have decodable : ∀ name stored, c.zones.get? name = some stored →
      ∃ r, Record.ofJson (.ofDict stored) = .ok r := by
    intro name stored found
    rw [Dict.get?_insert, Dict.get?_insert] at found
    split_ifs at found
    · cases found; exact ⟨record "b" "simple", rfl⟩
    · cases found; exact ⟨record "a" "vlan", rfl⟩
    · cases found
  have ofKind : c.storedOf (some .vlan) = [("a", fields "a" "vlan")] := by decide
  obtain ⟨sorted, _⟩ := listing (answer [item "b" "faucet", item "a" "vlan", item "b" "simple"]) ()
    none
  obtain ⟨_, same, _⟩ := listing (answer [item "b" "simple", item "a" "vlan"]) () none
  obtain ⟨_, _, empty, _⟩ := listing (answering (.object [])) () none
  obtain ⟨_, _, _, faulty, _⟩ := listing (answer [item "a" "vlan", .null]) () none
  obtain ⟨_, _, _, _, stored⟩ := listing (answer []) () (some .vlan)
  refine ⟨?_, ?_, ?_, ?_, ?_⟩
  · exact sorted _ _ (answered _)
      (.cons (decoded _ _) (.cons (decoded _ _) (.cons (decoded _ _) .nil)))
  · exact same _ () none _ _ [record "b" "simple", record "a" "vlan"] (answered _) (answered _)
      (List.Perm.swap _ _ _) (.cons (decoded _ _) (.cons (decoded _ _) .nil)) (by decide)
  · exact empty ⟨_, rfl, .missing List.not_mem_nil⟩
  · exact faulty _ (answered _) ⟨.null, by simp, fun _ read => by cases read⟩
  · obtain ⟨stored, listed, held, sorts, ran⟩ := stored c rfl decodable
    rw [ofKind] at held
    exact ⟨stored, listed, held, sorts, congrArg Prod.fst ran⟩

end Zones

end SdnZones
