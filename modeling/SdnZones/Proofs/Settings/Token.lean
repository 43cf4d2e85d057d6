-- SUMMARY: Which tokens are accepted, against the form that is asked for.
import SdnZones.Proofs.Text.Occurrence
import SdnZones.Settings.Basic

/-!
# The form of tokens

The form that is asked for has four parts, none of them empty (`Token.Documented`). The check
looks for an at sign before the name, but not at what stands on either side of it. So it also
takes hollow tokens, which have no user or no realm, and nothing else (`Settings.token_check`).
-/

namespace SdnZones

namespace Token

variable {token user realm name secret : String}

/-! ## Parts -/

/-- A token in four parts. The user and the realm have no exclamation mark and no equals sign, the
name has no equals sign. -/
structure Reads (token user realm name secret : String) : Prop where
  text : token = user ++ "@" ++ realm ++ "!" ++ name ++ "=" ++ secret
  user : '!' ∉ user.toList ∧ '=' ∉ user.toList
  realm : '!' ∉ realm.toList ∧ '=' ∉ realm.toList
  name : '=' ∉ name.toList

namespace Reads

theorem parts (h : Reads token user realm name secret) :
    parts? token = some (user ++ "@" ++ realm ++ "!" ++ name, secret) := by
  refine Text.cutString_eq_some_iff.2 ⟨?_, ?_⟩
  · rw [h.text, String.toList_append, String.toList_append, List.append_assoc]
    rfl
  · simp [h.user.2, h.realm.2, h.name]

theorem identityParts (h : Reads token user realm name secret) :
    identityParts? (user ++ "@" ++ realm ++ "!" ++ name) = some (user ++ "@" ++ realm, name) := by
  refine Text.cutString_eq_some_iff.2 ⟨?_, ?_⟩
  · rw [String.toList_append, String.toList_append, List.append_assoc]
    rfl
  · simp [h.user.1, h.realm.1]

theorem of_parts {identity login : String} (parts : parts? token = some (identity, secret))
    (identityParts : identityParts? identity = some (login, name))
    (atSign : login.toList = user.toList ++ '@' :: realm.toList) :
    Reads token user realm name secret := by
  obtain ⟨whole, noEquals⟩ := Text.cutString_eq_some_iff.1 parts
  obtain ⟨front, noMark⟩ := Text.cutString_eq_some_iff.1 identityParts
  rw [front, atSign] at noEquals
  rw [atSign] at noMark
  simp only [List.mem_append, List.mem_cons, not_or] at noEquals noMark
  constructor
  · rw [← String.toList_inj, whole, front, atSign]
    simp
  · exact ⟨noMark.1, noEquals.1.1⟩
  · exact ⟨noMark.2.2, noEquals.1.2.2⟩
  · exact noEquals.2.2

/-- What stands before the name is the same however a token is read. -/
theorem login_unique {user' realm' name' secret' : String} (h : Reads token user realm name secret)
    (h' : Reads token user' realm' name' secret') :
    user.toList ++ '@' :: realm.toList = user'.toList ++ '@' :: realm'.toList := by
  have identity : user ++ "@" ++ realm ++ "!" ++ name = user' ++ "@" ++ realm' ++ "!" ++ name' :=
    congrArg Prod.fst (Option.some.inj (h.parts.symm.trans h'.parts))
  have cuts := h.identityParts
  rw [identity, h'.identityParts] at cuts
  have login : user' ++ "@" ++ realm' = user ++ "@" ++ realm :=
    congrArg Prod.fst (Option.some.inj cuts)
  simpa using (congrArg String.toList login).symm

end Reads

theorem isAccepted_iff : isAccepted token = true ↔
    ∃ user realm name secret, Reads token user realm name secret ∧ name ≠ "" ∧ secret ≠ "" := by
  constructor
  · intro accepted
    unfold isAccepted at accepted
    split at accepted
    · cases accepted
    · rename_i identity secret parts
      split at accepted
      · cases accepted
      · rename_i login name identityParts
        simp only [Bool.and_eq_true, Bool.not_eq_true', String.isEmpty_eq_false_iff,
          List.contains_iff_mem] at accepted
        obtain ⟨⟨filled, named⟩, atSign⟩ := accepted
        obtain ⟨user, realm, login_eq⟩ := List.append_of_mem atSign
        refine ⟨.ofList user, .ofList realm, name, secret, .of_parts parts identityParts ?_, named,
          filled⟩
        rw [login_eq, String.toList_ofList, String.toList_ofList]
  · rintro ⟨user, realm, name, secret, h, named, filled⟩
    simp [isAccepted, h.parts, h.identityParts, named, filled]

/-! ## Forms -/

theorem mem_inner_iff {α : Type} {a : α} {xs : List α} : a ∈ xs.tail.dropLast ↔
    ∃ before after, xs = before ++ a :: after ∧ before ≠ [] ∧ after ≠ [] := by
  constructor
  · intro inside
    cases xs with
    | nil => cases inside
    | cons first rest =>
      rw [List.tail_cons] at inside
      obtain rfl | ⟨middle, last, rfl⟩ := List.eq_nil_or_concat' rest
      · cases inside
      · rw [List.dropLast_concat] at inside
        obtain ⟨before, after, rfl⟩ := List.append_of_mem inside
        exact ⟨first :: before, after ++ [last], by simp, by simp, by simp⟩
  · rintro ⟨before, after, rfl, beforeFilled, afterFilled⟩
    rw [List.tail_append_of_ne_nil beforeFilled, List.dropLast_append_of_ne_nil (by simp),
      List.dropLast_cons_of_ne_nil afterFilled]
    simp

/-- The form that is asked for. -/
def Documented (token : String) : Prop :=
  ∃ user realm name secret, Reads token user realm name secret ∧
    user ≠ "" ∧ realm ≠ "" ∧ name ≠ "" ∧ secret ≠ ""

/-- The form without a user or a realm: before the name, at signs stand at the ends only. -/
def Hollow (token : String) : Prop :=
  ∃ user realm name secret, Reads token user realm name secret ∧ name ≠ "" ∧ secret ≠ "" ∧
    '@' ∉ (user.toList ++ '@' :: realm.toList).tail.dropLast

theorem Hollow.not_documented (hollow : Hollow token) : ¬ Documented token := by
  rintro ⟨user, realm, name, secret, reading, hasUser, hasRealm, _⟩
  obtain ⟨user', realm', name', secret', reading', _, _, ends⟩ := hollow
  rw [← reading.login_unique reading'] at ends
  refine ends (mem_inner_iff.2 ⟨_, _, rfl, ?_, ?_⟩)
  · simpa using hasUser
  · simpa using hasRealm

theorem isAccepted_iff_documented_or_hollow :
    isAccepted token = true ↔ Documented token ∨ Hollow token := by
  rw [isAccepted_iff]
  constructor
  · rintro ⟨user, realm, name, secret, reading, named, filled⟩
    by_cases inner : '@' ∈ (user.toList ++ '@' :: realm.toList).tail.dropLast
    · obtain ⟨before, after, login, hasUser, hasRealm⟩ := mem_inner_iff.1 inner
      refine .inl ⟨.ofList before, .ofList after, name, secret,
        .of_parts reading.parts reading.identityParts ?_, ?_, ?_, named, filled⟩
      · simpa using login
      · simpa [← String.toList_inj] using hasUser
      · simpa [← String.toList_inj] using hasRealm
    · exact .inr ⟨user, realm, name, secret, reading, named, filled, inner⟩
  · rintro (⟨user, realm, name, secret, reading, _, _, named, filled⟩ |
      ⟨user, realm, name, secret, reading, named, filled, _⟩)
    · exact ⟨user, realm, name, secret, reading, named, filled⟩
    · exact ⟨user, realm, name, secret, reading, named, filled⟩

end Token

namespace Settings

theorem isHttpUrl_iff {url : String} : isHttpUrl url = true ↔
    "http://".toList <+: url.toList ∨ "https://".toList <+: url.toList := by
  rw [isHttpUrl, Bool.or_eq_true, Text.startsWith, Text.startsWith, List.isPrefixOf_iff_prefix,
    List.isPrefixOf_iff_prefix]

/-- A token is accepted exactly if it has the form that is asked for, hollow tokens apart: these
are accepted though they do not have it. Every other token is told to be invalid. -/
theorem token_check {s : Settings} {token : String}
    (http : "http://".toList <+: s.endpoint.toList ∨ "https://".toList <+: s.endpoint.toList)
    (given : s.apiToken = some token) :
    (¬ Token.Hollow token → (s.check? = none ↔ Token.Documented token)) ∧
      (Token.Hollow token → s.check? = none ∧ ¬ Token.Documented token) ∧
      (s.check? = none ∨ s.check? = some .invalidToken) := by
  have checked : s.check? = if Token.isAccepted token then none else some .invalidToken := by
    simp only [check?, isHttpUrl_iff.2 http, given]
    rfl
  have accepted : s.check? = none ↔ Token.Documented token ∨ Token.Hollow token := by
    rw [checked, ← Token.isAccepted_iff_documented_or_hollow]
    split <;> simp [*]
  refine ⟨fun whole => ?_, fun hollow => ⟨accepted.2 (.inr hollow), hollow.not_documented⟩, ?_⟩
  · rw [accepted, or_iff_left whole]
  · rw [checked]
    split
    · exact .inl rfl
    · exact .inr rfl

/-- The secret may hold what separates the other parts. -/
theorem separators_in_secret_accepted :
    ({ apiToken := some "root@pam!cli=d5e1=@!" } : Settings).check? = none ∧
      Token.Documented "root@pam!cli=d5e1=@!" := by
  have documented : Token.Documented "root@pam!cli=d5e1=@!" :=
    ⟨"root", "pam", "cli", "d5e1=@!", ⟨by decide, by decide, by decide, by decide⟩, by decide,
      by decide, by decide, by decide⟩
  have https : "https://".toList <+: ({} : Settings).endpoint.toList := by decide
  obtain ⟨whole, hollow, _⟩ :=
    token_check (s := { apiToken := some "root@pam!cli=d5e1=@!" }) (.inr https) rfl
  exact ⟨(whole fun empty => (hollow empty).2 documented).2 documented, documented⟩

/-- A token is accepted without a user and a realm. -/
theorem hollow_token_accepted :
    ({ apiToken := some "@!x=y" } : Settings).check? = none ∧ ¬ Token.Documented "@!x=y" := by
  refine ⟨by decide, Token.Hollow.not_documented ⟨"", "", "x", "y", ?_⟩⟩
  exact ⟨⟨by decide, by decide, by decide, by decide⟩, by decide, by decide, by decide⟩

end Settings
end SdnZones
