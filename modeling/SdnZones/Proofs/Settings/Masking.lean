-- SUMMARY: Settings are shown as if their token had another secret.
import SdnZones.Command.Run
import SdnZones.Proofs.Settings.Token

/-!
# Hiding the secret

An accepted token and the token that is shown in its place have the same identity, because both are
cut at the same equals sign (`Token.parts?_masked`). So what is shown of accepted settings is all of
some other accepted settings, and these do not depend on the secret (`Settings.secret_not_shown`).
-/

namespace SdnZones

/-! ## Tokens -/

namespace Token

variable {token identity secret : String}

theorem toList_masked (parts : parts? token = some (identity, secret)) :
    (masked token).toList = identity.toList ++ '=' :: hidden.toList := by
  rw [masked, parts]
  show (identity ++ "=" ++ hidden).toList = _
  rw [String.toList_append, String.toList_append, List.append_assoc]
  rfl

/-- Hiding the secret of a token leaves its identity. -/
theorem parts?_masked (parts : parts? token = some (identity, secret)) :
    parts? (masked token) = some (identity, hidden) :=
  Text.cutString_eq_some_iff.2 ⟨toList_masked parts, (Text.cutString_eq_some_iff.1 parts).2⟩

theorem exists_parts_of_isAccepted (accepted : isAccepted token = true) :
    ∃ identity secret, parts? token = some (identity, secret) := by
  obtain ⟨user, realm, name, secret, reading, _⟩ := isAccepted_iff.1 accepted
  exact ⟨_, secret, reading.parts⟩

/-- A token that is accepted is accepted with its secret hidden. -/
theorem isAccepted_masked (accepted : isAccepted token = true) :
    isAccepted (masked token) = true := by
  obtain ⟨user, realm, name, secret, reading, named, _⟩ := isAccepted_iff.1 accepted
  refine isAccepted_iff.2 ⟨user, realm, name, hidden, ⟨?_, reading.user, reading.realm,
    reading.name⟩, named, by decide⟩
  rw [masked, reading.parts]
  rfl

end Token

/-! ## Settings -/

namespace Settings

variable {s t : Settings}

/-- The identity of the token, if there is a token and it has one. -/
def identity? (s : Settings) : Option String :=
  s.apiToken.bind fun token => (Token.parts? token).map Prod.fst

/-- Settings that differ in nothing but the secrets of their tokens. -/
structure AlikeButSecret (s t : Settings) : Prop where
  endpoint : s.endpoint = t.endpoint
  identity : s.identity? = t.identity?
  insecure : s.insecure = t.insecure
  timeout : s.timeout = t.timeout

/-- The secret is hidden in the token, if there is one. -/
def IsMasked (s : Settings) : Prop :=
  ∀ token, s.apiToken = some token →
    ∃ identity, Token.parts? token = some (identity, Token.hidden)

theorem check?_eq_none_iff : s.check? = none ↔ isHttpUrl s.endpoint = true ∧
    ∀ token, s.apiToken = some token → Token.isAccepted token = true := by
  rw [check?]
  cases isHttpUrl s.endpoint with
  | false => simp
  | true => cases s.apiToken <;> simp

theorem exists_parts (accepted : s.check? = none) {token : String}
    (given : s.apiToken = some token) :
    ∃ identity secret, Token.parts? token = some (identity, secret) :=
  Token.exists_parts_of_isAccepted ((check?_eq_none_iff.1 accepted).2 token given)

/-- What is shown of accepted settings has the identity of the token and not its secret. -/
theorem masked_eq (accepted : s.check? = none) : s.masked = {
    endpoint := s.endpoint
    apiToken := s.identity?.map fun identity => identity ++ "=" ++ Token.hidden
    insecure := s.insecure
    timeout := s.timeout } := by
  have token : s.apiToken.map Token.masked =
      s.identity?.map fun identity => identity ++ "=" ++ Token.hidden := by
    rw [identity?]
    cases given : s.apiToken with
    | none => rfl
    | some token =>
      obtain ⟨identity, secret, parts⟩ := exists_parts accepted given
      rw [Option.map_some, Option.bind_some, Token.masked, parts]
      rfl
  rw [masked, token]

theorem masked_eq_of_alike (accepted : s.check? = none) (accepted' : t.check? = none)
    (alike : AlikeButSecret s t) : s.masked = t.masked := by
  rw [masked_eq accepted, masked_eq accepted', alike.endpoint, alike.identity, alike.insecure,
    alike.timeout]

theorem check?_masked (accepted : s.check? = none) : s.masked.check? = none := by
  obtain ⟨http, tokens⟩ := check?_eq_none_iff.1 accepted
  refine check?_eq_none_iff.2 ⟨http, fun shown given => ?_⟩
  obtain ⟨token, held, rfl⟩ := Option.map_eq_some_iff.1 given
  exact Token.isAccepted_masked (tokens token held)

theorem alikeButSecret_masked (accepted : s.check? = none) : AlikeButSecret s s.masked where
  endpoint := rfl
  identity := by
    rw [identity?, identity?, masked]
    cases given : s.apiToken with
    | none => rfl
    | some token =>
      obtain ⟨identity, secret, parts⟩ := exists_parts accepted given
      rw [Option.map_some, Option.bind_some, Option.bind_some, parts, Token.parts?_masked parts]
      rfl
  insecure := rfl
  timeout := rfl

theorem isMasked_masked (accepted : s.check? = none) : s.masked.IsMasked := by
  intro shown given
  obtain ⟨token, held, rfl⟩ := Option.map_eq_some_iff.1 given
  obtain ⟨identity, secret, parts⟩ := exists_parts accepted held
  exact ⟨identity, Token.parts?_masked parts⟩

/-- Accepted settings that differ in nothing but the secrets of their tokens are shown in the same
way: with the same text, or with the same failure. What is shown is all of some accepted settings
that differ from both in nothing but the secret, and hold none. The command that shows settings says
the same of both and makes no call. -/
theorem secret_not_shown (accepted : s.check? = none) (accepted' : t.check? = none)
    (alike : AlikeButSecret s t) :
    s.shown? false = t.shown? false ∧
      (∃ u : Settings, u.check? = none ∧ u.IsMasked ∧ AlikeButSecret s u ∧ AlikeButSecret t u ∧
        s.shown? false = u.shown? true) ∧
      ∀ {σ : Type} (files : Files) (transport : Transport σ) (state : σ),
        (Command.Task.config false).perform files s transport state =
          (Command.showSettings t false, state) := by
  have same := masked_eq_of_alike accepted accepted' alike
  have shown : s.shown? false = t.shown? false := congrArg toToml? same
  have apart : AlikeButSecret t s.masked := by
    rw [same]
    exact alikeButSecret_masked accepted'
  refine ⟨shown, ⟨s.masked, check?_masked accepted, isMasked_masked accepted,
    alikeButSecret_masked accepted, apart, rfl⟩, fun files transport state => ?_⟩
  show (Command.showSettings s false, state) = _
  rw [Command.showSettings, Command.showSettings, shown]

/-- Secrets with separators, quotes and line ends are not shown. -/
theorem odd_secrets_not_shown :
    let s : Settings := { apiToken := some "root@pam!cli=d5\"e1=\n!", insecure := true }
    let t : Settings := { apiToken := some "root@pam!cli='=@", insecure := true }
    s.check? = none ∧ t.check? = none ∧ AlikeButSecret s t ∧
      t.shown? false = some ("endpoint = \"https://localhost:8006/api2/json\"\n" ++
        "api_token = \"root@pam!cli=********\"\ninsecure = true\n") ∧
      s.shown? false = t.shown? false := by
  intro s t
  have accepted : s.check? = none := by decide
  have accepted' : t.check? = none := by decide
  have alike : AlikeButSecret s t := ⟨rfl, by decide, rfl, rfl⟩
  exact ⟨accepted, accepted', alike, by decide, (secret_not_shown accepted accepted' alike).1⟩

end Settings
end SdnZones
