import GatedCache.Proofs.Body
import GatedCache.Proofs.Course
import GatedCache.Proofs.Opening

/-!
Changes of settings that no run notices. A change of settings goes with a change of the caches that
are made from them. It is inert if a service shows the same of the changed settings, and if a changed
cache does the same as before. Then it passes through openings, bodies, scopes and whole courses of a
service: everything that is seen of them is the same, and the caches are changed.
-/
namespace GatedCache

structure Change where
  settings : Settings → Settings
  cache : Cache → Cache

namespace Cache

variable {σ α : Type} (f : Cache → Cache)

def Step.recast (s : Step σ) : Step σ := { s with cache := f s.cache }

def Opening.recast (o : Opening σ) : Opening σ := { o with result := o.result.map f }

def Visit.recast (v : Visit σ α) : Visit σ α := { v with cache := f v.cache }

def Left.recast (l : Left σ α) : Left σ α := { l with cache := f l.cache }

def Lifespan.recast (l : Lifespan σ α) : Lifespan σ α :=
  ⟨l.opening.recast f, l.left.map (Left.recast f)⟩

def Body.Performed.recast (p : Body.Performed σ) : Body.Performed σ :=
  { p with step := p.step.recast f }

end Cache

namespace Service

variable {σ α : Type}

def recast (c : Change) (a : Service σ) : Service σ :=
  { a with settings := c.settings a.settings, cache := a.cache.map c.cache }

def Step.recast (c : Change) (s : Step σ α) : Step σ α := { s with service := s.service.recast c }

theorem map_recast {β : Type} (f : α → β) (c : Change) (s : Step σ α) :
    (s.recast c).map f = (s.map f).recast c := rfl

def View.recast (f : Cache → Cache) (v : View σ) : View σ := { v with cache := v.cache.map f }

end Service

structure Change.Inert (c : Change) : Prop where
  mode : ∀ s, (c.settings s).mode = s.mode
  name : ∀ s, (c.settings s).serviceName = s.serviceName
  version : ∀ s, (c.settings s).serviceVersion = s.serviceVersion
  enabled : ∀ s, (c.settings s).redisEnabled = s.redisEnabled
  place : ∀ s, Cache.place (c.settings s) = Cache.place s
  level : ∀ s, (c.settings s).logLevel = s.logLevel
  json : ∀ s, (c.settings s).logJson = s.logJson
  made : ∀ s, (Cache.create (c.settings s)).1 = c.cache (Cache.create s).1
  kind : ∀ cache : Cache, (c.cache cache).isEnabled = cache.isEnabled
  works : ∀ {σ : Type} (client : Client σ) (cache : Cache) (state : σ) (op : Cache.Operation),
    Cache.perform client (c.cache cache) state op =
      (Cache.perform client cache state op).recast c.cache

variable {σ α : Type} {c : Change} (inert : c.Inert) (client : Client σ)
include inert

namespace Cache

theorem create_recast (s : Settings) :
    create (c.settings s) = (c.cache (create s).1, (create s).2) := by
  refine Prod.ext (inert.made s) ?_
  simp only [create, inert.enabled]
  split <;> rfl

theorem probe_recast (s : Settings) (state : σ) :
    probe client (c.settings s) state = probe client s state := by
  unfold probe connectedRecord unreachableRecord
  rw [inert.place]

theorem openWith_recast (s : Settings) (state : σ) :
    openWith client (c.settings s) state = (openWith client s state).recast c.cache := by
  simp only [openWith, create_recast inert, inert.kind, probe_recast inert]
  split
  · simp only [Opening.recast]
    cases (probe client s state).result <;> rfl
  · rfl

theorem enterOpening_recast (s : Settings) (state : σ) :
    enterOpening client (c.settings s) state = (enterOpening client s state).recast c.cache := by
  simp only [enterOpening, openWith_recast inert, Opening.recast]
  cases (openWith client s state).result <;> rfl

theorem leaveBy_recast (escape : Failure → Failure) (v : Visit σ α) :
    leaveBy escape client (v.recast c.cache) = (leaveBy escape client v).recast c.cache := by
  simp only [leaveBy, Visit.recast, inert.works]
  rfl

theorem run_recast (body : Body σ) (cache : Cache) (state : σ) :
    body.run client (c.cache cache) state = (body.run client cache state).recast c.cache := by
  induction body generalizing cache state with
  | finish ending => rfl
  | perform op next ih =>
    simp only [Body.run, inert.works, Step.recast, ih]
    rfl
  | meanwhile change next ih => exact ih cache (change state)

theorem performed_recast (body : Body σ) (cache : Cache) (state : σ) :
    body.performed client (c.cache cache) state =
      (body.performed client cache state).map (Body.Performed.recast c.cache) := by
  induction body generalizing cache state with
  | finish ending => rfl
  | perform op next ih =>
    simp only [Body.performed, inert.works, List.map_cons]
    exact congrArg _ (ih _ _ _)
  | meanwhile change next ih => exact ih cache (change state)

theorem runOpened_recast (s : Settings) (state : σ) (body : Body σ) :
    body.runOpened client (c.settings s) state =
      ((body.runOpened client s state).1.recast c.cache,
        (body.runOpened client s state).2.map (Visit.recast c.cache)) := by
  simp only [Body.runOpened, openWith_recast inert, Opening.recast]
  cases (openWith client s state).result with
  | error e => rfl
  | ok cache =>
    simp only [Except.map, run_recast inert, Option.map_some]

theorem lifespan_recast (s : Settings) (state : σ) (body : Body σ) :
    lifespan client (c.settings s) state (body.run client) =
      (lifespan client s state (body.run client)).recast c.cache := by
  simp only [lifespan, enterOpening_recast inert, Lifespan.recast]
  cases entered : (enterOpening client s state).result with
  | error e =>
    simp only [Opening.recast, entered]
    rfl
  | ok cache =>
    simp only [Opening.recast, entered, Except.map, run_recast inert, leaveOpening,
      leaveBy_recast inert, Option.map_some]

end Cache

namespace Service

theorem start_recast (time : String) (a : Service σ) :
    (a.recast c).start client time = (a.start client time).recast c := by
  simp only [start, recast, Cache.enterOpening_recast inert, inert.level, inert.json, startFields,
    inert.version, inert.mode, inert.enabled, Cache.Opening.recast, Step.recast]
  cases (Cache.enterOpening client a.settings a.state).result <;> rfl

theorem stop_recast (time : String) (a : Service σ) :
    (a.recast c).stop client time = (a.stop client time).recast c := by
  obtain ⟨settings, cache, state, log⟩ := a
  cases cache with
  | none => rfl
  | some cache =>
    have left := Cache.leaveBy_recast inert client Failure.outOfScope
      (⟨.ok (), cache, state, ()⟩ : Cache.Visit σ Unit)
    simp only [Cache.Visit.recast] at left
    simp only [stop, recast, Option.map_some, Cache.leaveOpening, left, Cache.Left.recast]
    rfl

theorem checkCache_recast (a : Service σ) :
    (a.recast c).checkCache client = (a.checkCache client).recast c := by
  obtain ⟨settings, cache, state, log⟩ := a
  cases cache with
  | none => rfl
  | some cache =>
    simp only [checkCache, recast, Option.map_some, inert.kind, inert.works, Cache.Step.recast]
    split <;> rfl

theorem handle_recast (time : String) (a : Service σ) (r : Request) :
    (a.recast c).handle client time r = (a.handle client time r).recast c := by
  unfold handle
  cases route r.method r.path with
  | endpoint e =>
    cases e with
    | health =>
      simp only [quiet, recast, healthFields, inert.name, inert.version, inert.mode, Step.recast]
    | cacheHealth => exact checkCache_recast inert client a
  | _ => rfl

theorem act_recast (time : String) (a : Service σ) (action : Action) :
    (a.recast c).act client time action = (a.act client time action).recast c := by
  cases action with
  | start => rw [act, act, start_recast inert, map_recast]
  | stop => rw [act, act, stop_recast inert, map_recast]
  | request r => rw [act, act, handle_recast inert, map_recast]

theorem course_recast (a : Service σ) (moments : List (Moment σ)) :
    course client (a.recast c) moments = (course client a moments).map (Step.recast c) := by
  induction moments generalizing a with
  | nil => rfl
  | cons moment rest ih =>
    cases moment with
    | act time action =>
      simp only [course, act_recast inert, List.map_cons]
      exact congrArg _ (ih _)
    | meanwhile change => exact ih { a with state := change a.state }

omit client in
theorem create_recast (s : Settings) (state : σ) :
    create (c.settings s) state = (create s state).map (recast c) := by
  unfold create
  rw [inert.name, inert.version, apply_ite (Except.map (recast c)),
    apply_ite (Except.map (recast c))]
  rfl

theorem serve_recast (s : Settings) (state : σ) (moments : List (Moment σ)) :
    serve client (c.settings s) state moments =
      (serve client s state moments).map (List.map (View.recast c.cache)) := by
  unfold serve
  rw [create_recast inert]
  cases create s state with
  | error fault => rfl
  | ok a =>
    simp only [Except.map, course_recast inert, List.map_map]
    rfl

end Service
end GatedCache
