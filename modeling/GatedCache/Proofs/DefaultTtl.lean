import GatedCache.Proofs.Indifference

/-!
The time to live that settings name is a suggestion. A cache has it to show and never applies it by
itself. So settings that differ in nothing else make caches, scopes and services of which everything
is the same that is sent, logged, answered and stored, whatever the client does; only what the caches
suggest tells them apart.
-/
namespace GatedCache

def Settings.withTtl (ttl : Int) (s : Settings) : Settings := { s with redisTtl := ttl }

namespace Cache

def withTtl (ttl : Int) : Cache → Cache
  | disabled _ => disabled ttl
  | live _ closed => live ttl closed

@[simp] theorem defaultTtl_withTtl (ttl : Int) (cache : Cache) :
    (cache.withTtl ttl).defaultTtl = ttl := by
  cases cache <;> rfl

theorem perform_withTtl {σ : Type} (client : Client σ) (ttl : Int) (cache : Cache) (state : σ)
    (op : Operation) :
    perform client (cache.withTtl ttl) state op =
      (perform client cache state op).recast (withTtl ttl) := by
  cases cache with
  | disabled own => rfl
  | live own closed => cases closed <;> rfl

theorem create_withTtl (s : Settings) (ttl : Int) :
    (create (s.withTtl ttl)).1 = (create s).1.withTtl ttl := by
  cases on : s.redisEnabled <;> simp [create, Settings.withTtl, on, withTtl]

theorem defaultTtl_create (s : Settings) : (create s).1.defaultTtl = s.redisTtl := by
  cases on : s.redisEnabled <;> simp [create, on, defaultTtl]

end Cache

def Change.ofTtl (ttl : Int) : Change := ⟨Settings.withTtl ttl, Cache.withTtl ttl⟩

theorem Change.inert_ofTtl (ttl : Int) : (ofTtl ttl).Inert where
  mode _ := rfl
  name _ := rfl
  version _ := rfl
  enabled _ := rfl
  place _ := rfl
  level _ := rfl
  json _ := rfl
  made s := Cache.create_withTtl s ttl
  kind cache := by cases cache <;> rfl
  works client cache state op := Cache.perform_withTtl client ttl cache state op

namespace Settings

/-- Two settings that differ at most in their times to live. -/
def ApartInTtl (s t : Settings) : Prop := t = s.withTtl t.redisTtl

/-- Two settings that nothing tells apart but what their caches suggest. The client may be any, and so
may be what is done with a cache or a service. -/
structure TtlSuggested (s t : Settings) : Prop where
  suggestions : (Cache.create s).1.defaultTtl = s.redisTtl ∧
    (Cache.create t).1.defaultTtl = t.redisTtl
  connection : Connection.ofSettings t = Connection.ofSettings s
  connections : ∀ handed, Cache.connectionsMade t handed = Cache.connectionsMade s handed
  created : Cache.create t = ((Cache.create s).1.withTtl t.redisTtl, (Cache.create s).2)
  performed : ∀ (σ : Type) (client : Client σ) (state : σ) (body : Cache.Body σ),
    body.performed client (Cache.create t).1 state =
      (body.performed client (Cache.create s).1 state).map
        (Cache.Body.Performed.recast (Cache.withTtl t.redisTtl))
  ran : ∀ (σ : Type) (client : Client σ) (state : σ) (body : Cache.Body σ),
    body.run client (Cache.create t).1 state =
      (body.run client (Cache.create s).1 state).recast (Cache.withTtl t.redisTtl)
  opened : ∀ (σ : Type) (client : Client σ) (state : σ) (body : Cache.Body σ),
    body.runOpened client t state =
      ((body.runOpened client s state).1.recast (Cache.withTtl t.redisTtl),
        (body.runOpened client s state).2.map (Cache.Visit.recast (Cache.withTtl t.redisTtl)))
  within : ∀ (σ : Type) (client : Client σ) (state : σ) (body : Cache.Body σ),
    Cache.lifespan client t state (body.run client) =
      (Cache.lifespan client s state (body.run client)).recast (Cache.withTtl t.redisTtl)
  served : ∀ (σ : Type) (client : Client σ) (state : σ) (moments : List (Service.Moment σ)),
    Service.serve client t state moments =
      (Service.serve client s state moments).map
        (List.map (Service.View.recast (Cache.withTtl t.redisTtl)))

/-- Whatever is done with the caches and the services that they make: settings that differ in nothing
but their times to live differ in nothing that is sent, logged, answered or stored. -/
theorem default_ttl_is_only_suggested (s t : Settings) (apart : ApartInTtl s t) :
    TtlSuggested s t := by
  unfold ApartInTtl at apart
  generalize t.redisTtl = ttl at apart
  subst apart
  have inert := Change.inert_ofTtl ttl
  have made := Cache.create_withTtl s ttl
  constructor
  · exact ⟨Cache.defaultTtl_create s, Cache.defaultTtl_create _⟩
  · rfl
  · intro handed
    rfl
  · exact Cache.create_recast inert s
  · intro σ client state body
    rw [made]
    exact Cache.performed_recast inert client body _ state
  · intro σ client state body
    rw [made]
    exact Cache.run_recast inert client body _ state
  · intro σ client state body
    exact Cache.runOpened_recast inert client s state body
  · intro σ client state body
    exact Cache.lifespan_recast inert client s state body
  · intro σ client state moments
    exact Service.serve_recast inert client s state moments

/-- Sets an entry without an expiry in two ways and asks for its time to live. -/
def undatedEntry : Cache.Body Store :=
  .perform (.set "seat" "taken" none) fun _ => .perform (.set "seat" "free" (some 0)) fun _ =>
    .perform (.ttl "seat") fun _ => .finish (.ok ())

/-- A suggestion of one second leaves the entry undated, as one of an hour does. -/
theorem short_suggestion_is_not_applied :
    ApartInTtl switchedOn (switchedOn.withTtl 1) ∧
      (Cache.create (switchedOn.withTtl 1)).1.defaultTtl = 1 ∧
      (undatedEntry.performed Store.client (Cache.create (switchedOn.withTtl 1)).1 .empty).map
          (fun p => (Cache.calls p.step.trace, p.step.result)) =
        [([.set "seat" "taken"], .ok .null), ([.set "seat" "free"], .ok .null),
          ([.ttl "seat"], .ok (.int (-1)))] := by
  have apart : ApartInTtl switchedOn (switchedOn.withTtl 1) := rfl
  have suggested := default_ttl_is_only_suggested switchedOn (switchedOn.withTtl 1) apart
  refine ⟨apart, suggested.suggestions.2, ?_⟩
  rw [suggested.performed Store Store.client .empty undatedEntry, List.map_map]
  rfl

end Settings
end GatedCache
