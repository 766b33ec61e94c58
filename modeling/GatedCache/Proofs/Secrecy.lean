import GatedCache.Proofs.Indifference
import GatedCache.Settings.Shown

/-!
The password does not show. Two settings that differ in nothing but their passwords look the same as
text, make the same caches, open and scope them with the same outcome, and are served with the same
responses and the same log, whatever the client answers. Only the password itself and the one that
the connection carries tell them apart.
-/
namespace GatedCache

def Settings.withPassword (q : Option String) (s : Settings) : Settings :=
  { s with redisPassword := q }

namespace Cache

variable {σ : Type}

theorem openWith_withPassword (client : Client σ) (s : Settings) (q : Option String) (state : σ) :
    openWith client (s.withPassword q) state = openWith client s state := rfl

theorem lifespan_withPassword {α : Type} (client : Client σ) (s : Settings) (q : Option String)
    (state : σ) (body : Cache → σ → Visit σ α) :
    lifespan client (s.withPassword q) state body = lifespan client s state body := rfl

end Cache

/-- A change of the password goes with no change of the caches. -/
def Change.ofPassword (q : Option String) : Change := ⟨Settings.withPassword q, id⟩

theorem Change.inert_ofPassword (q : Option String) : (ofPassword q).Inert where
  mode _ := rfl
  name _ := rfl
  version _ := rfl
  enabled _ := rfl
  place _ := rfl
  level _ := rfl
  json _ := rfl
  made _ := rfl
  kind _ := rfl
  works _ _ _ _ := rfl

namespace Service

variable {σ : Type}

theorem recast_id : (View.recast id : View σ → View σ) = id := by
  funext v
  simp only [View.recast, Option.map_id, id]

theorem serve_withPassword (client : Client σ) (s : Settings) (q : Option String) (state : σ)
    (moments : List (Moment σ)) :
    serve client (s.withPassword q) state moments = serve client s state moments := by
  have changed := serve_recast (Change.inert_ofPassword q) client s state moments
  simp only [Change.ofPassword, recast_id, List.map_id_fun] at changed
  rw [changed]
  cases serve client s state moments <;> rfl

end Service

namespace Settings

/-- Two settings that differ at most in their passwords, neither of which is empty. -/
inductive PasswordApart : Settings → Settings → Prop where
  | intro (s : Settings) {p q : String} (filled : p ≠ "") (filled' : q ≠ "") :
      PasswordApart (s.withPassword (some p)) (s.withPassword (some q))

theorem mask_of_filled {p : String} (filled : p ≠ "") : Value.mask p = "**********" := by
  simp [Value.mask, filled]

theorem shown_withPassword (s : Settings) (q : Option String) {f : Field}
    (other : f ≠ .redisPassword) : (s.withPassword q).shown f = s.shown f := by
  cases f with
  | redisPassword => exact absurd rfl other
  | _ => rfl

theorem literal_shown_of_apart {s t : Settings} (apart : PasswordApart s t) (f : Field) :
    (s.shown f).literal = (t.shown f).literal := by
  obtain ⟨s, filled, filled'⟩ := apart
  by_cases other : f = .redisPassword
  · subst other
    simp only [shown, withPassword, Option.map_some, Option.getD_some, Value.literal,
      mask_of_filled filled, mask_of_filled filled']
  · rw [shown_withPassword s _ other, shown_withPassword s _ other]

/-- Settings that nothing tells apart but the password itself and the one of the connection. The
client may be any, and so may be what is done with a cache or a service. -/
structure LookAlike (s t : Settings) : Prop where
  literal : s.literal = t.literal
  plain : s.plain = t.plain
  masked : (s.shown .redisPassword).plain = "**********" ∧
    (t.shown .redisPassword).plain = "**********"
  others : ∀ f, f ≠ .redisPassword → s.shown f = t.shown f
  connection :
    { Connection.ofSettings s with password := t.redisPassword } = Connection.ofSettings t
  connections : ∀ handed, Cache.connectionsMade s handed = Cache.connectionsMade t handed
  created : ∀ (σ : Type) (client : Client σ) (state : σ) (body : Cache.Body σ),
    body.runCreated client s state = body.runCreated client t state
  opened : ∀ (σ : Type) (client : Client σ) (state : σ) (body : Cache.Body σ),
    body.runOpened client s state = body.runOpened client t state
  within : ∀ (σ : Type) (client : Client σ) (state : σ) (body : Cache.Body σ),
    Cache.lifespan client s state (body.run client) = Cache.lifespan client t state (body.run client)
  served : ∀ (σ : Type) (client : Client σ) (state : σ) (moments : List (Service.Moment σ)),
    Service.serve client s state moments = Service.serve client t state moments

theorem password_does_not_show (s t : Settings) (apart : PasswordApart s t) : LookAlike s t := by
  have literals : s.fields = t.fields := by
    simp only [fields, literal_shown_of_apart apart]
  obtain ⟨s, filled, filled'⟩ := apart
  constructor
  · rw [literal, literal, literals]
  · rw [plain, plain, literals]
  · exact ⟨mask_of_filled filled, mask_of_filled filled'⟩
  · intro f other
    rw [shown_withPassword s _ other, shown_withPassword s _ other]
  · rfl
  · intro handed
    rfl
  · intro σ client state body
    rfl
  · intro σ client state body
    simp only [Cache.Body.runOpened, Cache.openWith_withPassword]
  · intro σ client state body
    rw [Cache.lifespan_withPassword, Cache.lifespan_withPassword]
  · intro σ client state moments
    rw [Service.serve_withPassword, Service.serve_withPassword]

/-- Settings with two secrets that differ are not the same, and yet they look alike. -/
theorem alpha_and_omega_look_alike :
    switchedOn.withPassword (some "alpha") ≠ switchedOn.withPassword (some "omega") ∧
      PasswordApart (switchedOn.withPassword (some "alpha")) (switchedOn.withPassword (some "omega")) ∧
      LookAlike (switchedOn.withPassword (some "alpha")) (switchedOn.withPassword (some "omega")) := by
  have apart : PasswordApart (switchedOn.withPassword (some "alpha"))
      (switchedOn.withPassword (some "omega")) := .intro switchedOn (by decide) (by decide)
  exact ⟨by decide, apart, password_does_not_show _ _ apart⟩

end Settings
end GatedCache
