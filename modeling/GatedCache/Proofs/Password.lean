import GatedCache.Connection
import GatedCache.Proofs.Opening
import GatedCache.Proofs.Resolution

/-!
What becomes of a password. It is accepted as text, as bytes that are text in UTF-8, and as a secret,
and it reaches the connection character for character. Text without any character but blanks is no
password. That rule is one of texts: the same characters as bytes or as a secret are a password.
-/
namespace GatedCache.Settings

/-- A raw value is accepted as a password of this text. -/
inductive PasswordText : Value → String → Prop where
  | text (p : String) : PasswordText (.text p) p
  | bytes {bs : List UInt8} {p : String} (decoded : Value.decodeUtf8? bs = some p) :
      PasswordText (.bytes bs) p
  | secret (p : String) : PasswordText (.secret p) p

def Blank (p : String) : Prop := ∀ c ∈ p.toList, Text.isBlank c = true

theorem readPassword_blank {p : String} (blank : Blank p) :
    readPassword (.text p) = .ok none := by
  have skipped : Text.isBlankText p = true := Text.isBlankText_iff.mpr blank
  simp only [readPassword, skipped, if_true]

theorem readPassword_verbatim {v : Value} {p : String} (form : PasswordText v p)
    (kept : ¬ (v = .text p ∧ Blank p)) : readPassword v = .ok (some p) := by
  cases form with
  | text p =>
    have solid : ¬ Text.isBlankText p = true := fun blank =>
      kept ⟨rfl, Text.isBlankText_iff.mp blank⟩
    simp only [readPassword, if_neg solid]
  | bytes decoded => simp only [readPassword, decoded]
  | secret p => rfl

/-- A value that is accepted as a password and is not the absence of one has a text. -/
theorem passwordText_of_read {v : Value} {q : Option String} (accepted : readPassword v = .ok q) :
    v = .null ∨ ∃ p, PasswordText v p := by
  cases v with
  | null => exact Or.inl rfl
  | text p => exact Or.inr ⟨p, .text p⟩
  | secret p => exact Or.inr ⟨p, .secret p⟩
  | bytes bs =>
    cases decoded : Value.decodeUtf8? bs with
    | some p => exact Or.inr ⟨p, .bytes decoded⟩
    | none => simp [readPassword, decoded] at accepted
  | _ => cases accepted

/-- Whatever source an accepted password comes from: it is null or has a text. With a text, there is
no password for the connection exactly if it was given as text and is blank; else the password is
that text. -/
theorem password_arrives (s : Sources) (x : Settings) (loaded : load s = .ok x) (v : Value)
    (supplied : Supplies s .redisPassword v) :
    (Connection.ofSettings x).password = x.redisPassword ∧
      (v = .null ∨ ∃ p, PasswordText v p) ∧
      ∀ p, PasswordText v p →
        (x.redisPassword = none ↔ v = .text p ∧ Blank p) ∧
        ∀ q, x.redisPassword = some q → q = p := by
  have read : readPassword v = .ok x.redisPassword := by
    obtain ⟨_, _, _, _, _, _, password, _⟩ := (load_eq_ok_iff s x).mp loaded
    rw [← raw_of_supplies supplied]
    exact password
  refine ⟨rfl, passwordText_of_read read, ?_⟩
  intro p form
  by_cases given : v = .text p ∧ Blank p
  · obtain ⟨rfl, blank⟩ := given
    rw [readPassword_blank blank] at read
    have absent : x.redisPassword = none := (Except.ok.inj read).symm
    refine ⟨⟨fun _ => ⟨rfl, blank⟩, fun _ => absent⟩, ?_⟩
    intro q some
    rw [absent] at some
    cases some
  · rw [readPassword_verbatim form given] at read
    have verbatim : x.redisPassword = some p := (Except.ok.inj read).symm
    refine ⟨⟨?_, fun both => absurd both given⟩, ?_⟩
    · intro none
      rw [verbatim] at none
      cases none
    · intro q some
      rw [verbatim] at some
      exact (Option.some.inj some).symm

/-- An empty secret is a password. -/
theorem empty_secret_is_password :
    load ⟨[("REDIS_ENABLED", .bool true), ("REDIS_PASSWORD", .secret "")], [], none⟩ =
        .ok { switchedOn with redisPassword := some "" } ∧
      Blank "" ∧
      (Connection.ofSettings { switchedOn with redisPassword := some "" }).password ≠ none := by
  have loaded : load ⟨[("REDIS_ENABLED", .bool true), ("REDIS_PASSWORD", .secret "")], [], none⟩ =
      .ok { switchedOn with redisPassword := some "" } := rfl
  have blank : Blank "" := by
    intro c member
    cases member
  obtain ⟨same, _, arrives⟩ := password_arrives _ _ loaded (.secret "") (.keyword rfl)
  refine ⟨loaded, blank, ?_⟩
  rw [same]
  intro none
  obtain ⟨asText, _⟩ := (arrives "" (.secret "")).1.mp none
  cases asText

end GatedCache.Settings
