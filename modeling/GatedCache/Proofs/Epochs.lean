import GatedCache.Settings.Memo

/-!
What a run of calls for the settings remembers. An epoch begins wherever all is forgotten. In each one
the calls fail, every one on its own sources, until one succeeds; from then on they give the object
that was built there, whatever the sources have become. Objects of different epochs are different
ones, also where they hold the same.
-/
namespace GatedCache.Settings.Memo

def after (m : Memo) (steps : List Step) : Memo :=
  steps.foldl (fun m s => (m.step s).2) m

theorem run_append (m : Memo) (earlier later : List Step) :
    run m (earlier ++ later) = run m earlier ++ run (m.after earlier) later := by
  induction earlier generalizing m with
  | nil => rfl
  | cons s earlier ih => exact congrArg _ (ih (m.step s).2)

theorem length_run (m : Memo) (steps : List Step) : (run m steps).length = steps.length := by
  induction steps generalizing m with
  | nil => rfl
  | cons s steps ih => exact congrArg (· + 1) (ih (m.step s).2)

theorem getElem?_run (m : Memo) (steps : List Step) (i : Nat) :
    (run m steps)[i]? = steps[i]?.map fun s => ((m.after (steps.take i)).step s).1 := by
  induction steps generalizing m i with
  | nil => rfl
  | cons s steps ih =>
    cases i with
    | zero => rfl
    | succ i => exact ih (m.step s).2 i

/-- All that a step can come to. -/
inductive Takes (m : Memo) (s : Step) : Checked Loaded → Memo → Prop where
  | recalled {l : Loaded} (kept : s.clear = false) (known : m.remembered = some l) :
      Takes m s (.ok l) m
  | built {x : Settings} (unknown : s.clear = true ∨ m.remembered = none)
      (loaded : load s.sources = .ok x) :
      Takes m s (.ok ⟨m.count, x⟩) ⟨some ⟨m.count, x⟩, m.count + 1⟩
  | refused {ps : List Problem} (unknown : s.clear = true ∨ m.remembered = none)
      (failed : load s.sources = .error ps) : Takes m s (.error ps) ⟨none, m.count⟩

theorem takes_get {m : Memo} {s : Step} (unknown : s.clear = true ∨ m.remembered = none) :
    Takes m s (get ⟨none, m.count⟩ s.sources).1 (get ⟨none, m.count⟩ s.sources).2 := by
  cases outcome : load s.sources with
  | ok x =>
    simp only [get, outcome]
    exact .built unknown outcome
  | error ps =>
    simp only [get, outcome]
    exact .refused unknown outcome

theorem takes_step (m : Memo) (s : Step) : Takes m s (m.step s).1 (m.step s).2 := by
  obtain ⟨remembered, count⟩ := m
  cases clears : s.clear with
  | true =>
    simp only [step, clears, if_true, clear]
    exact takes_get (.inl clears)
  | false =>
    cases remembered with
    | some l =>
      simp only [step, clears, Bool.false_eq_true, if_false, get]
      exact .recalled clears rfl
    | none =>
      simp only [step, clears, Bool.false_eq_true, if_false]
      exact takes_get (.inr rfl)

section Taken

variable {m next : Memo} {s : Step} {answer : Checked Loaded}

/-- What is remembered after a step is what it answered, if that was a success. -/
theorem Takes.remembered (takes : Takes m s answer next) : next.remembered = answer.toOption := by
  cases takes with
  | recalled _ known => exact known
  | built => rfl
  | refused => rfl

theorem Takes.count_le (takes : Takes m s answer next) : m.count ≤ next.count := by
  cases takes with
  | recalled => exact Nat.le_refl _
  | built => exact Nat.le_succ _
  | refused => exact Nat.le_refl _

theorem Takes.unmoved {ps : List Problem} (takes : Takes m s (.error ps) next)
    (kept : s.clear = false) : next = m := by
  cases takes with
  | refused unknown _ =>
    have nothing := unknown.resolve_left (by simp [kept])
    rw [← nothing]

/-- The next object gets a number that the remembered one has not. -/
def Counted (m : Memo) : Prop := ∀ l, m.remembered = some l → l.serial < m.count

theorem Takes.counted (takes : Takes m s answer next) (counted : m.Counted) : next.Counted := by
  cases takes with
  | recalled => exact counted
  | built =>
    rintro l ⟨⟩
    exact Nat.lt_succ_self _
  | refused =>
    rintro l ⟨⟩

end Taken

/-- What is remembered before a step of a run that begins with nothing. -/
def before (steps : List Step) (i : Nat) : Memo :=
  empty.after (steps.take i)

theorem before_succ {steps : List Step} {i : Nat} {s : Step} (here : steps[i]? = some s) :
    before steps (i + 1) = ((before steps i).step s).2 := by
  simp only [before, after, List.take_add_one, here, Option.toList_some, List.foldl_append,
    List.foldl_cons, List.foldl_nil]

theorem before_succ_of_none {steps : List Step} {i : Nat} (past : steps[i]? = none) :
    before steps (i + 1) = before steps i := by
  simp only [before, List.take_add_one, past, Option.toList_none, List.append_nil]

section Runs

variable {steps : List Step} {i j k : Nat}

theorem counted_before (steps : List Step) (i : Nat) : (before steps i).Counted := by
  induction i with
  | zero => rintro l ⟨⟩
  | succ i ih =>
    cases here : steps[i]? with
    | none => exact (before_succ_of_none here).symm ▸ ih
    | some s => exact (before_succ here).symm ▸ (takes_step _ s).counted ih

theorem count_before_le (earlier : i ≤ j) : (before steps i).count ≤ (before steps j).count := by
  induction earlier with
  | refl => exact Nat.le_refl _
  | @step j _ ih =>
    refine Nat.le_trans ih ?_
    cases here : steps[j]? with
    | none => exact (before_succ_of_none here).symm ▸ Nat.le_refl _
    | some s => exact (before_succ here).symm ▸ (takes_step _ s).count_le

def Answers (steps : List Step) (i : Nat) (answer : Checked Loaded) : Prop :=
  (run empty steps)[i]? = some answer

theorem answers_iff (steps : List Step) (i : Nat) (answer : Checked Loaded) :
    Answers steps i answer ↔ ∃ s, steps[i]? = some s ∧ ((before steps i).step s).1 = answer := by
  rw [Answers, getElem?_run, Option.map_eq_some_iff]
  rfl

theorem answers_of_lt (inside : i < steps.length) : ∃ answer, Answers steps i answer :=
  ⟨_, List.getElem?_eq_getElem (by rwa [length_run])⟩

theorem Answers.remembered {answer : Checked Loaded} (answers : Answers steps i answer) :
    (before steps (i + 1)).remembered = answer.toOption := by
  obtain ⟨s, here, rfl⟩ := (answers_iff steps i answer).mp answers
  rw [before_succ here]
  exact (takes_step _ s).remembered

/-- The step with which the epoch of a step begins: the last one, up to it, that forgets, or the first
of all. -/
def epoch (steps : List Step) : Nat → Nat
  | 0 => 0
  | i + 1 => if steps[i + 1]?.any Step.clear then i + 1 else epoch steps i

theorem epoch_succ (steps : List Step) (i : Nat) :
    epoch steps (i + 1) = if steps[i + 1]?.any Step.clear then i + 1 else epoch steps i :=
  rfl

theorem epoch_succ_of_clear {s : Step} (here : steps[i + 1]? = some s) (clears : s.clear = true) :
    epoch steps (i + 1) = i + 1 := by
  simp [epoch_succ, here, clears]

theorem epoch_succ_of_kept {s : Step} (here : steps[i + 1]? = some s) (kept : s.clear = false) :
    epoch steps (i + 1) = epoch steps i := by
  simp [epoch_succ, here, kept]

theorem epoch_le (steps : List Step) (i : Nat) : epoch steps i ≤ i := by
  induction i with
  | zero => exact Nat.le_refl 0
  | succ i ih =>
    rw [epoch_succ]
    split <;> omega

theorem epoch_eq_of_mem (begun : epoch steps i ≤ j) (now : j ≤ i) :
    epoch steps j = epoch steps i := by
  induction i with
  | zero => rw [Nat.le_zero.mp now]
  | succ i ih =>
    by_cases last : j = i + 1
    · rw [last]
    · rw [epoch_succ] at begun ⊢
      split at begun
      · omega
      · rename_i kept
        rw [if_neg kept]
        exact ih begun (by omega)

theorem lt_epoch_of_ne (differ : epoch steps i ≠ epoch steps k) :
    i < epoch steps k ∨ k < epoch steps i := by
  have apart : ¬ (epoch steps k ≤ i ∧ epoch steps i ≤ k) := by
    rintro ⟨left, right⟩
    rcases Nat.le_total i k with first | first
    · exact differ (epoch_eq_of_mem left first)
    · exact differ (epoch_eq_of_mem right first).symm
  omega

/-- The sources of a step are valid, and give those settings. -/
def Builds (steps : List Step) (i : Nat) (x : Settings) : Prop :=
  ∃ s, steps[i]? = some s ∧ load s.sources = .ok x

def Unbuilt (steps : List Step) (first last : Nat) : Prop :=
  ∀ k y, first ≤ k → k < last → ¬ Builds steps k y

/-- Up to a step, another one is the earliest of its epoch that could build settings. -/
structure Earliest (steps : List Step) (i j : Nat) (x : Settings) : Prop where
  begun : epoch steps i ≤ j
  now : j ≤ i
  builds : Builds steps j x
  none : Unbuilt steps (epoch steps i) j

theorem Builds.unique {x y : Settings} (one : Builds steps i x) (other : Builds steps i y) :
    x = y := by
  obtain ⟨s, here, loaded⟩ := one
  obtain ⟨t, there, found⟩ := other
  obtain rfl := Option.some.inj (here.symm.trans there)
  exact Except.ok.inj (loaded.symm.trans found)

theorem Earliest.unique {x y : Settings} {n : Nat} (one : Earliest steps i j x)
    (other : Earliest steps k n y) (same : epoch steps i = epoch steps k) : j = n ∧ x = y := by
  rcases Nat.lt_trichotomy j n with less | rfl | more
  · exact absurd one.builds (other.none j x (same ▸ one.begun) less)
  · exact ⟨rfl, one.builds.unique other.builds⟩
  · exact absurd other.builds (one.none n y (same ▸ other.begun) more)

theorem Earliest.later {x : Settings} (first : Earliest steps i j x)
    (same : epoch steps (i + 1) = epoch steps i) : Earliest steps (i + 1) j x := by
  constructor
  · exact same ▸ first.begun
  · exact Nat.le_succ_of_le first.now
  · exact first.builds
  · exact same ▸ first.none

theorem Earliest.self {x : Settings} (first : Earliest steps i j x) : Earliest steps j j x := by
  have same : epoch steps j = epoch steps i := epoch_eq_of_mem first.begun first.now
  exact ⟨epoch_le steps j, Nat.le_refl j, first.builds, same ▸ first.none⟩

/-- The answer that is due at a step. An object has the number of those that were made before it. -/
inductive Due (steps : List Step) (i : Nat) : Checked Loaded → Prop where
  | remembered {j : Nat} {x : Settings} (first : Earliest steps i j x) :
      Due steps i (.ok ⟨(before steps j).count, x⟩)
  | refused {s : Step} {ps : List Problem} (here : steps[i]? = some s)
      (failed : load s.sources = .error ps) (none : Unbuilt steps (epoch steps i) (i + 1)) :
      Due steps i (.error ps)

theorem due_of_takes {s : Step} {answer : Checked Loaded} {next : Memo} (here : steps[i]? = some s)
    (takes : Takes (before steps i) s answer next)
    (recalled : ∀ l, s.clear = false → (before steps i).remembered = some l → Due steps i (.ok l))
    (unbuilt : s.clear = true ∨ (before steps i).remembered = none →
      Unbuilt steps (epoch steps i) i) : Due steps i answer := by
  cases takes with
  | recalled kept known => exact recalled _ kept known
  | built unknown loaded =>
    exact .remembered ⟨epoch_le steps i, Nat.le_refl i, ⟨s, here, loaded⟩, unbuilt unknown⟩
  | refused unknown failed =>
    refine .refused here failed ?_
    intro k y begun now built
    by_cases own : k = i
    · obtain ⟨t, there, loaded⟩ := built
      rw [own, here] at there
      cases there
      exact absurd (failed.symm.trans loaded) (by simp)
    · exact unbuilt unknown k y begun (by omega) built

/-- By induction on the step: what is remembered before it is the last answer, and that one was due. -/
theorem due_of_answers {answer : Checked Loaded} (answers : Answers steps i answer) :
    Due steps i answer := by
  induction i generalizing answer with
  | zero =>
    obtain ⟨s, here, rfl⟩ := (answers_iff steps 0 answer).mp answers
    refine due_of_takes here (takes_step _ s) ?_ ?_
    · rintro l _ ⟨⟩
    · intro _ k y _ early
      exact absurd early (Nat.not_lt_zero k)
  | succ i ih =>
    obtain ⟨s, here, rfl⟩ := (answers_iff steps (i + 1) answer).mp answers
    obtain ⟨last, given⟩ := answers_of_lt (Nat.lt_of_succ_lt (List.getElem?_eq_some_iff.mp here).1)
    have due := ih given
    have left := given.remembered
    refine due_of_takes here (takes_step _ s) ?_ ?_
    · intro l kept known
      cases due with
      | remembered first =>
        cases left.symm.trans known
        exact .remembered (first.later (epoch_succ_of_kept here kept))
      | refused => cases left.symm.trans known
    · intro unknown k y begun early built
      cases clears : s.clear with
      | true =>
        have fresh := epoch_succ_of_clear here clears
        omega
      | false =>
        have same := epoch_succ_of_kept here clears
        have nothing := unknown.resolve_left (by simp [clears])
        cases due with
        | remembered => cases left.symm.trans nothing
        | refused _ _ none => exact none k y (same ▸ begun) early built

theorem answers_of_earliest {x : Settings} (inside : i < steps.length)
    (first : Earliest steps i j x) : Answers steps i (.ok ⟨(before steps j).count, x⟩) := by
  obtain ⟨answer, given⟩ := answers_of_lt inside
  cases due_of_answers given with
  | remembered other =>
    obtain ⟨rfl, rfl⟩ := other.unique first rfl
    exact given
  | refused _ _ none => exact absurd first.builds (none j x first.begun (Nat.lt_succ_of_le first.now))

theorem earliest_of_answers {l : Loaded} (given : Answers steps i (.ok l)) :
    ∃ j x, Earliest steps i j x ∧ l = ⟨(before steps j).count, x⟩ := by
  cases due_of_answers given with
  | remembered first => exact ⟨_, _, first, rfl⟩

/-- An object was made before those of later epochs. -/
theorem serial_lt {l later : Loaded} (given : Answers steps i (.ok l))
    (again : Answers steps k (.ok later)) (past : i < epoch steps k) : l.serial < later.serial := by
  obtain ⟨j, x, first, rfl⟩ := earliest_of_answers again
  have kept : (before steps (i + 1)).remembered = some l := given.remembered
  have made : l.serial < (before steps (i + 1)).count := counted_before steps (i + 1) l kept
  exact Nat.lt_of_lt_of_le made (count_before_le (Nat.le_trans past first.begun))

theorem serial_eq_iff {l other : Loaded} (given : Answers steps i (.ok l))
    (again : Answers steps k (.ok other)) :
    l.serial = other.serial ↔ epoch steps i = epoch steps k := by
  constructor
  · intro same
    by_cases one : epoch steps i = epoch steps k
    · exact one
    · rcases lt_epoch_of_ne one with past | past
      · exact absurd same (Nat.ne_of_lt (serial_lt given again past))
      · exact absurd same.symm (Nat.ne_of_lt (serial_lt again given past))
  · intro same
    obtain ⟨j, x, first, rfl⟩ := earliest_of_answers given
    obtain ⟨n, y, earliest, rfl⟩ := earliest_of_answers again
    rw [(first.unique earliest same).1]

theorem serial_ne_of_sooner {x : Settings} {l other : Loaded} (first : Earliest steps j j x)
    (made : Answers steps j (.ok l)) (sooner : k < j) (given : Answers steps k (.ok other)) :
    other.serial ≠ l.serial := by
  intro same
  obtain ⟨n, y, previous, _⟩ := earliest_of_answers given
  have one := (serial_eq_iff given made).mp same
  have met : n = j := (previous.unique first one).1
  have bound := previous.now
  omega

end Runs

theorem run_without_failure {earlier later : List Step} {s : Step} {ps : List Problem}
    (kept : s.clear = false)
    (failed : Answers (earlier ++ s :: later) earlier.length (.error ps)) :
    run empty (earlier ++ later) = (run empty (earlier ++ s :: later)).eraseIdx earlier.length := by
  obtain ⟨t, here, result⟩ := (answers_iff _ _ _).mp failed
  simp only [List.getElem?_append_right (Nat.le_refl _), Nat.sub_self, List.getElem?_cons_zero,
    Option.some.injEq] at here
  subst here
  have reached : before (earlier ++ s :: later) earlier.length = empty.after earlier := by
    rw [before, List.take_left]
  rw [reached] at result
  have still := (result ▸ takes_step (empty.after earlier) s).unmoved kept
  have enough : (run empty earlier).length ≤ earlier.length := Nat.le_of_eq (length_run _ _)
  rw [run_append, run_append, run, still, List.eraseIdx_append_of_length_le enough, length_run,
    Nat.sub_self, List.eraseIdx_cons_zero]

/-- What the calls of a run answer. -/
structure RemembersSuccesses (steps : List Step) : Prop where
  answered : (run empty steps).length = steps.length
  /-- Once a call of the epoch could succeed, the answer is the object that was made at the earliest
  such call, and at no call before it. -/
  remembered : ∀ i k y, i < steps.length → epoch steps i ≤ k → k ≤ i → Builds steps k y →
    ∃ j x l, Earliest steps i j x ∧ l.settings = x ∧
      Answers steps i (.ok l) ∧ Answers steps j (.ok l) ∧
        ∀ n other, n < j → Answers steps n (.ok other) → other.serial ≠ l.serial
  /-- Until then each call fails, with the problems of its own sources. -/
  refused : ∀ i s, steps[i]? = some s → Unbuilt steps (epoch steps i) (i + 1) →
    ∃ ps, load s.sources = .error ps ∧ Answers steps i (.error ps)
  /-- Two successes are one object exactly if they belong to one epoch. -/
  same : ∀ i k l other, Answers steps i (.ok l) → Answers steps k (.ok other) →
    (l.serial = other.serial ↔ epoch steps i = epoch steps k)
  /-- Without a call that failed, and forgot nothing, the others answer the same. -/
  forgotten : ∀ earlier s later ps, steps = earlier ++ s :: later → s.clear = false →
    Answers steps earlier.length (.error ps) →
      run empty (earlier ++ later) = (run empty steps).eraseIdx earlier.length

theorem run_remembers_successes (steps : List Step) : RemembersSuccesses steps := by
  constructor
  · exact length_run empty steps
  · intro i k y inside begun now built
    obtain ⟨answer, given⟩ := answers_of_lt inside
    cases due_of_answers given with
    | refused _ _ none => exact absurd built (none k y begun (Nat.lt_succ_of_le now))
    | @remembered j x first =>
      have made := answers_of_earliest (Nat.lt_of_le_of_lt first.now inside) first.self
      refine ⟨j, x, _, first, rfl, given, made, ?_⟩
      intro n other sooner answered
      exact serial_ne_of_sooner first.self made sooner answered
  · intro i s here unbuilt
    obtain ⟨answer, given⟩ := answers_of_lt (List.getElem?_eq_some_iff.mp here).1
    cases due_of_answers given with
    | remembered first =>
      exact absurd first.builds (unbuilt _ _ first.begun (Nat.lt_succ_of_le first.now))
    | @refused t ps there failed _ =>
      cases here.symm.trans there
      exact ⟨ps, failed, given⟩
  · intro i k l other given again
    exact serial_eq_iff given again
  · rintro earlier s later ps rfl kept failed
    exact run_without_failure kept failed

def ofTcpPort (text : String) : Sources := ⟨[], [("REDIS_PORT", text)], none⟩

/-- A failure, a success that outlasts its variable, and an equal one after all was forgotten. -/
example : (run empty [⟨false, ofTcpPort "0"⟩, ⟨false, ofTcpPort "6380"⟩, ⟨false, ofTcpPort "6381"⟩,
      ⟨true, ofTcpPort "6380"⟩]).map (Except.map fun l => (l.serial, l.settings.redisPort)) =
    [.error [⟨.redisPort, .below 1⟩], .ok (0, 6380), .ok (0, 6380), .ok (1, 6380)] := rfl

end GatedCache.Settings.Memo
