-- SUMMARY: Printed JSON text is read as the value that was printed.
import SdnZones.Json.Reader
import SdnZones.Proofs.Json.Token

/-!
# Reading what was printed

The text of a value leads the reader from wherever a value has to stand to where it goes on after
this value (`Json.leads_value`), by induction on the value. So a whole printed text is read as the
value that was printed (`Json.read_pretty`), as long as its numbers are integers of 64 bits and its
containers are not nested too deep.
-/

namespace SdnZones.Json

/-! ## Values that are read as themselves -/

mutual

/-- Whether all numbers of a value are integers that are read as themselves. -/
def Exact : Json → Prop
  | .float _ => False
  | .int i => IsWord i
  | .array items => ExactItems items
  | .object members => ExactMembers members
  | _ => True

/-- Whether all numbers of items are integers that are read as themselves. -/
def ExactItems : List Json → Prop
  | [] => True
  | v :: rest => Exact v ∧ ExactItems rest

/-- Whether all numbers of members are integers that are read as themselves. -/
def ExactMembers : List (String × Json) → Prop
  | [] => True
  | (_, v) :: rest => Exact v ∧ ExactMembers rest

end

mutual

/-- How deep containers are nested in a value. -/
def depth : Json → Nat
  | .array items => depthItems items + 1
  | .object members => depthMembers members + 1
  | _ => 0

/-- How deep containers are nested in items. -/
def depthItems : List Json → Nat
  | [] => 0
  | v :: rest => max (depth v) (depthItems rest)

/-- How deep containers are nested in members. -/
def depthMembers : List (String × Json) → Nat
  | [] => 0
  | (_, v) :: rest => max (depth v) (depthMembers rest)

end

theorem exactItems_iff {items : List Json} : ExactItems items ↔ ∀ v ∈ items, v.Exact := by
  induction items with
  | nil => simp [ExactItems]
  | cons v items ih => rw [ExactItems, ih, List.forall_mem_cons]

theorem exactMembers_iff {members : List (String × Json)} :
    ExactMembers members ↔ ∀ e ∈ members, e.2.Exact := by
  induction members with
  | nil => simp [ExactMembers]
  | cons e members ih => rw [ExactMembers, ih, List.forall_mem_cons]

theorem depthItems_le_iff {items : List Json} {n : Nat} :
    depthItems items ≤ n ↔ ∀ v ∈ items, v.depth ≤ n := by
  induction items with
  | nil => simp [depthItems]
  | cons v items ih => rw [depthItems, Nat.max_le, ih, List.forall_mem_cons]

theorem depthMembers_le_iff {members : List (String × Json)} {n : Nat} :
    depthMembers members ≤ n ↔ ∀ e ∈ members, e.2.depth ≤ n := by
  induction members with
  | nil => simp [depthMembers]
  | cons e members ih => rw [depthMembers, Nat.max_le, ih, List.forall_mem_cons]

/-- Values that are read as they were printed, nested up to a depth. -/
structure Fits (n : Nat) (v : Json) : Prop where
  exact : v.Exact
  shallow : v.depth ≤ n

theorem Fits.object {n : Nat} {members : List (String × Json)} (h : ∀ e ∈ members, e.2.Fits n) :
    (Json.object members).Fits (n + 1) where
  exact := exactMembers_iff.2 fun e he => (h e he).exact
  shallow := Nat.succ_le_succ (depthMembers_le_iff.2 fun e he => (h e he).shallow)

theorem Fits.mono {m n : Nat} {v : Json} (h : v.Fits m) (le : m ≤ n) : v.Fits n :=
  ⟨h.exact, Nat.le_trans h.shallow le⟩

/-! ## Stretches of text -/

/-- A stretch of text, if this follows it, leads the reader from one place to another. How much fuel
is left for what follows is not said, only that it is enough. -/
def Leads (cs rest : List Char) (p q : Progress) : Prop :=
  ∀ fuel, (cs ++ rest).length ≤ fuel → ∃ left, rest.length ≤ left ∧
    (Token.scanFrom fuel (cs ++ rest)).foldl Progress.step p =
      (Token.scanFrom left rest).foldl Progress.step q

section

variable {a b cs rest : List Char} {p q r : Progress}

theorem Leads.refl : Leads [] rest p p := fun fuel enough => ⟨fuel, enough, rfl⟩

theorem Leads.append (first : Leads a (b ++ rest) p q) (second : Leads b rest q r) :
    Leads (a ++ b) rest p r := by
  intro fuel enough
  rw [List.append_assoc] at enough ⊢
  obtain ⟨middle, enoughMiddle, same⟩ := first fuel enough
  obtain ⟨left, enoughLeft, same'⟩ := second middle enoughMiddle
  exact ⟨left, enoughLeft, same.trans same'⟩

/-- White space leads nowhere else. -/
theorem leads_spaces (spaces : ∀ c ∈ cs, isSpace c = true) : Leads cs rest p p := by
  induction cs with
  | nil => exact .refl
  | cons c cs ih =>
    obtain ⟨space, spaces⟩ := List.forall_mem_cons.1 spaces
    intro fuel enough
    cases fuel with
    | zero => simp at enough
    | succ fuel =>
      rw [List.cons_append, Token.scanFrom, if_pos space]
      exact ih spaces fuel (Nat.le_of_succ_le_succ enough)

/-- A token leads one step further. -/
theorem leads_token {token : Token} (read : token.ReadAs cs rest) (last : token.isLast = false)
    (stepped : p.step token = q) : Leads cs rest p q := by
  obtain ⟨c, tail, rfl, solid, scanned⟩ := read
  intro fuel enough
  cases fuel with
  | zero => simp at enough
  | succ fuel =>
    refine ⟨fuel, ?_, ?_⟩
    · simp only [List.cons_append, List.length_cons, List.length_append] at enough
      omega
    · rw [List.cons_append, Token.scanFrom, solid, scanned]
      simp [last, stepped]

end

theorem leads_newLine (depth : Nat) (rest : List Char) (p : Progress) :
    Leads (newLine depth) rest p p := by
  refine leads_spaces fun c hc => ?_
  rcases List.mem_cons.1 hc with rfl | hc
  · rfl
  · rw [List.eq_of_mem_replicate hc]
    rfl

theorem ends_of_head {c : Char} (rest : List Char)
    (h : c.isDigit = false ∧ c ≠ '.' ∧ c ≠ 'e' ∧ c ≠ 'E') : Ends (c :: rest) := by
  intro d hd
  obtain rfl := Option.some.inj hd
  exact h

theorem ends_closing (depth : Nat) (bracket : Char) (rest : List Char) :
    Ends (newLine depth ++ [bracket] ++ rest) :=
  ends_of_head _ (by decide)

theorem ends_comma (rest : List Char) : Ends (',' :: rest) := ends_of_head rest (by decide)

theorem ends_spaces {cs : List Char} (spaces : ∀ c ∈ cs, isSpace c = true) : Ends cs := by
  intro c hc
  have space := spaces c (List.mem_of_head? hc)
  simp only [isSpace, Bool.or_eq_true, beq_iff_eq] at space
  rcases space with ((rfl | rfl) | rfl) | rfl <;> decide

/-! ## Places in a text -/

/-- Where a value has to stand, if the token is not the end of an array. -/
def AwaitsValue (p : Progress) (above : List Waiting) : Prop :=
  ∀ token, token ≠ .closeArray → p.step token = Progress.stepValue above token

/-- Where a name has to stand, if the token is not the end of an object. -/
def AwaitsName (p : Progress) (before : List (String × Datum)) (above : List Waiting) : Prop :=
  ∀ token, token ≠ .closeObject → p.step token = Progress.stepName before above token

theorem awaitsValue_value (above : List Waiting) : AwaitsValue (.value above) above :=
  fun _ _ => rfl

theorem awaitsValue_items (above : List Waiting) :
    AwaitsValue (.items [] above) (.item [] :: above) := by
  intro token ne
  cases token with
  | closeArray => exact absurd rfl ne
  | _ => rfl

theorem awaitsName_nextName (before : List (String × Datum)) (above : List Waiting) :
    AwaitsName (.nextName before above) before above :=
  fun _ _ => rfl

theorem awaitsName_members (above : List Waiting) :
    AwaitsName (.members [] above) [] above := by
  intro token ne
  cases token with
  | closeObject => exact absurd rfl ne
  | _ => rfl

/-! ## Values -/

section

variable {cs rest : List Char} {p : Progress} {above : List Waiting}

theorem leads_await {token : Token} (awaits : AwaitsValue p above) (read : token.ReadAs cs rest)
    (last : token.isLast = false) (inside : token ≠ .closeArray) :
    Leads cs rest p (Progress.stepValue above token) :=
  leads_token read last (awaits token inside)

theorem readAs_mark {c : Char} {token : Token} (solid : isSpace c = false)
    (scanned : Token.scanOne c rest = (token, rest)) : token.ReadAs [c] rest :=
  ⟨c, [], rfl, solid, scanned⟩

theorem leads_openArray (awaits : AwaitsValue p above) (room : above.length < Progress.maxDepth) :
    Leads ['['] rest p (.items [] above) := by
  have bracket : Token.ReadAs ['['] rest .openArray := readAs_mark rfl rfl
  have step := leads_await awaits bracket rfl (by rintro ⟨⟩)
  rwa [Progress.stepValue, Progress.enter, if_pos room] at step

theorem leads_openObject (awaits : AwaitsValue p above) (room : above.length < Progress.maxDepth) :
    Leads ['\x7b'] rest p (.members [] above) := by
  have brace : Token.ReadAs ['\x7b'] rest .openObject := readAs_mark rfl rfl
  have step := leads_await awaits brace rfl (by rintro ⟨⟩)
  rwa [Progress.stepValue, Progress.enter, if_pos room] at step

theorem leads_mark {c : Char} {token : Token} {q : Progress} (solid : isSpace c = false)
    (scanned : Token.scanOne c rest = (token, rest)) (last : token.isLast = false)
    (stepped : p.step token = q) : Leads [c] rest p q :=
  leads_token (readAs_mark solid scanned) last stepped

theorem leads_closeArray (rest : List Char) (above : List Waiting) (before : List Datum) :
    Leads [']'] rest (.items before above) (Progress.place (.list before.reverse none) above) :=
  leads_mark rfl rfl rfl (by rw [Progress.step])

theorem leads_closeObject (rest : List Char) (above : List Waiting)
    (before : List (String × Datum)) :
    Leads ['\x7d'] rest (.members before above)
      (Progress.place (.fields before.reverse none) above) :=
  leads_mark rfl rfl rfl (by rw [Progress.step])

/-- The text of an array leads on if the text of its items leads to where it may end. -/
theorem leads_array (depth : Nat) {v : Json} {items : List Json}
    (room : above.length < Progress.maxDepth) (awaits : AwaitsValue p above)
    (inside : Leads (prettyItems (depth + 1) (v :: items)) (newLine depth ++ [']'] ++ rest)
      (.items [] above) (.items ((Datum.ofItems (v :: items)).reverse ++ []) above)) :
    Leads (prettyChars depth (.array (v :: items))) rest p
      (Progress.place (.ofJson (.array (v :: items))) above) := by
  have closing := (leads_newLine depth ([']'] ++ rest) _).append
    (leads_closeArray rest above ((Datum.ofItems (v :: items)).reverse ++ []))
  have whole := (leads_openArray awaits room).append (inside.append closing)
  rw [List.append_nil, List.reverse_reverse] at whole
  have text : prettyChars depth (.array (v :: items)) =
      ['['] ++ (prettyItems (depth + 1) (v :: items) ++ (newLine depth ++ [']'])) := by
    simp [prettyChars]
  rw [text]
  exact whole

/-- The text of an object leads on if the text of its members leads to where it may end. -/
theorem leads_object (depth : Nat) {m : String × Json} {members : List (String × Json)}
    (room : above.length < Progress.maxDepth) (awaits : AwaitsValue p above)
    (inside : Leads (prettyMembers (depth + 1) (m :: members)) (newLine depth ++ ['\x7d'] ++ rest)
      (.members [] above) (.members ((Datum.ofMembers (m :: members)).reverse ++ []) above)) :
    Leads (prettyChars depth (.object (m :: members))) rest p
      (Progress.place (.ofJson (.object (m :: members))) above) := by
  have closing := (leads_newLine depth (['\x7d'] ++ rest) _).append
    (leads_closeObject rest above ((Datum.ofMembers (m :: members)).reverse ++ []))
  have whole := (leads_openObject awaits room).append (inside.append closing)
  rw [List.append_nil, List.reverse_reverse] at whole
  have text : prettyChars depth (.object (m :: members)) =
      ['\x7b'] ++ (prettyMembers (depth + 1) (m :: members) ++ (newLine depth ++ ['\x7d'])) := by
    simp [prettyChars]
  rw [text]
  exact whole

/-- The text up to the value of a member. -/
theorem leads_name (depth : Nat) {before : List (String × Datum)}
    (awaits : AwaitsName p before above) (name : String) :
    Leads (newLine depth ++ stringText name ++ [':', ' ']) rest p
      (.value (.member before name :: above)) := by
  have text : ∀ rest, Leads (stringText name) rest p (.colon before name above) := fun rest =>
    leads_token (readAs_text name rest) rfl (awaits (.text (.ok name)) (by rintro ⟨⟩))
  have colon : Leads [':'] ([' '] ++ rest) (.colon before name above)
      (.value (.member before name :: above)) := leads_mark rfl rfl rfl rfl
  have space : ∀ q, Leads [' '] rest q q := fun q =>
    leads_spaces (List.forall_mem_singleton.2 rfl)
  exact ((leads_newLine depth _ p).append (text _)).append (colon.append (space _))

end

-- The induction is on the value. What waits above it, what follows it in the text and the place
-- are arbitrary, since they are others for the values inside.
mutual

/-- The text of a value leads from where a value has to stand to where it goes on after it. -/
theorem leads_value : ∀ (v : Json) (depth : Nat) (above : List Waiting) (rest : List Char)
    (p : Progress), v.Exact → above.length + v.depth ≤ Progress.maxDepth → Ends rest →
      AwaitsValue p above → Leads (prettyChars depth v) rest p (Progress.place (.ofJson v) above)
  | .null, _, _, rest, _, _, _, _, awaits =>
    leads_await awaits (readAs_null rest) rfl (by rintro ⟨⟩)
  | .bool b, _, _, rest, _, _, _, _, awaits =>
    leads_await awaits (readAs_bool b rest) rfl (by rintro ⟨⟩)
  | .int _, _, _, _, _, word, _, ends, awaits =>
    leads_await awaits (readAs_int word ends) rfl (by rintro ⟨⟩)
  | .float _, _, _, _, _, exact, _, _, _ => absurd exact id
  | .text s, _, _, rest, _, _, _, _, awaits =>
    leads_await awaits (readAs_text s rest) rfl (by rintro ⟨⟩)
  | .array [], _, _, _, _, _, room, _, awaits =>
    (leads_openArray awaits room).append (leads_closeArray _ _ [])
  | .array (v :: items), depth, above, rest, _, exact, shallow, _, awaits => by
    rw [Json.depth] at shallow
    have inside := leads_items (v :: items) (depth + 1) above _ (.items [] above) []
      (List.cons_ne_nil v items) exact (by omega) (ends_closing depth ']' rest)
      (awaitsValue_items above)
    exact leads_array depth (by omega) awaits inside
  | .object [], _, _, _, _, _, room, _, awaits =>
    (leads_openObject awaits room).append (leads_closeObject _ _ [])
  | .object (m :: members), depth, above, rest, _, exact, shallow, _, awaits => by
    rw [Json.depth] at shallow
    have inside := leads_members (m :: members) (depth + 1) above _ (.members [] above) []
      (List.cons_ne_nil m members) exact (by omega) (ends_closing depth '\x7d' rest)
      (awaitsName_members above)
    exact leads_object depth (by omega) awaits inside

/-- The text of items leads to where the array may end after them. -/
theorem leads_items : ∀ (items : List Json) (depth : Nat) (above : List Waiting)
    (rest : List Char) (p : Progress) (before : List Datum), items ≠ [] → ExactItems items →
      above.length + 1 + depthItems items ≤ Progress.maxDepth → Ends rest →
        AwaitsValue p (.item before :: above) →
          Leads (prettyItems depth items) rest p
            (.items ((Datum.ofItems items).reverse ++ before) above)
  | [], _, _, _, _, _, ne, _, _, _, _ => absurd rfl ne
  | [v], depth, above, rest, p, before, _, exact, shallow, ends, awaits => by
    rw [depthItems] at shallow
    have value := leads_value v depth (.item before :: above) rest p exact.1
      (by rw [List.length_cons]; omega) ends awaits
    exact (leads_newLine depth _ p).append value
  | v :: w :: items, depth, above, rest, p, before, _, exact, shallow, ends, awaits => by
    rw [depthItems] at shallow
    have value := leads_value v depth (.item before :: above)
      (',' :: prettyItems depth (w :: items) ++ rest) p exact.1 (by rw [List.length_cons]; omega)
      (ends_comma _) awaits
    have comma : Leads [','] (prettyItems depth (w :: items) ++ rest)
        (.items (.ofJson v :: before) above) (.value (.item (.ofJson v :: before) :: above)) :=
      leads_mark rfl rfl rfl rfl
    have others := leads_items (w :: items) depth above rest
      (.value (.item (.ofJson v :: before) :: above)) (.ofJson v :: before)
      (List.cons_ne_nil w items) exact.2 (by omega) ends (awaitsValue_value _)
    have whole := ((leads_newLine depth _ p).append value).append (comma.append others)
    rw [Datum.ofItems, List.reverse_cons, List.append_assoc]
    exact whole

/-- The text of members leads to where the object may end after them. -/
theorem leads_members : ∀ (members : List (String × Json)) (depth : Nat) (above : List Waiting)
    (rest : List Char) (p : Progress) (before : List (String × Datum)), members ≠ [] →
      ExactMembers members → above.length + 1 + depthMembers members ≤ Progress.maxDepth →
        Ends rest → AwaitsName p before above →
          Leads (prettyMembers depth members) rest p
            (.members ((Datum.ofMembers members).reverse ++ before) above)
  | [], _, _, _, _, _, ne, _, _, _, _ => absurd rfl ne
  | [(name, v)], depth, above, rest, p, before, _, exact, shallow, ends, awaits => by
    rw [depthMembers] at shallow
    have value := leads_value v depth (.member before name :: above) rest _ exact.1
      (by rw [List.length_cons]; omega) ends (awaitsValue_value _)
    have whole := (leads_name depth awaits name).append value
    have text : prettyMembers depth [(name, v)] =
        newLine depth ++ stringText name ++ [':', ' '] ++ prettyChars depth v := by
      simp [prettyMembers]
    rw [text]
    exact whole
  | (name, v) :: m :: members, depth, above, rest, p, before, _, exact, shallow, ends, awaits => by
    rw [depthMembers] at shallow
    have value := leads_value v depth (.member before name :: above)
      (',' :: prettyMembers depth (m :: members) ++ rest) _ exact.1
      (by rw [List.length_cons]; omega) (ends_comma _) (awaitsValue_value _)
    have comma : Leads [','] (prettyMembers depth (m :: members) ++ rest)
        (.members ((name, .ofJson v) :: before) above)
        (.nextName ((name, .ofJson v) :: before) above) := leads_mark rfl rfl rfl rfl
    have others := leads_members (m :: members) depth above rest _ ((name, .ofJson v) :: before)
      (List.cons_ne_nil m members) exact.2 (by omega) ends (awaitsName_nextName _ _)
    have whole := ((leads_name depth awaits name).append value).append (comma.append others)
    have text : prettyMembers depth ((name, v) :: m :: members) =
        newLine depth ++ stringText name ++ [':', ' '] ++ prettyChars depth v ++
          ([','] ++ prettyMembers depth (m :: members)) := by
      simp [prettyMembers]
    rw [Datum.ofMembers, List.reverse_cons, List.append_assoc, text]
    exact whole

end

/-! ## Whole texts -/

/-- The printed text of a value, with white space after it, is read as the value. -/
theorem read_pretty {v : Json} (fits : v.Fits Progress.maxDepth) {blanks : List Char}
    (spaces : ∀ c ∈ blanks, isSpace c = true) :
    read (v.pretty ++ String.ofList blanks) = (.ofJson v, true) := by
  have ends : Ends (blanks ++ []) := by
    rw [List.append_nil]
    exact ends_spaces spaces
  have value := leads_value v 0 [] (blanks ++ []) (.value []) fits.exact
    (by simpa using fits.shallow) ends (awaitsValue_value [])
  obtain ⟨left, _, same⟩ := (value.append (leads_spaces spaces)) _ (Nat.le_refl _)
  rw [read, String.toList_append, pretty, String.toList_ofList, String.toList_ofList, Token.scan]
  rw [List.append_nil] at same
  have rest : Token.scanFrom left [] = [] := by cases left <;> rfl
  rw [same, rest]
  rfl

end SdnZones.Json
