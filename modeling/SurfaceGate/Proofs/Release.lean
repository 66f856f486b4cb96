import SurfaceGate.Engine.Scripted
import SurfaceGate.Proofs.Outline.Records
import SurfaceGate.Proofs.Outline.Stranding

/-!
What is left when the surface goes.

The surface and all that came with it should be gone. The controller decides this by its stage alone,
and a panic amid a cycle leaves it in a stage that no later call ends. So the surface is kept if a panic
left it there, and input is let through if the gate stands open because the start of a worker panicked.
Short of that nothing is left.
-/

namespace SurfaceGate.Controller

variable {E : Engine} {H : Type} {c d e : Controller E H}

/-- A call was left amid a cycle, with the surface in hand. -/
structure Stuck (c : Controller E H) : Prop where
  not_idle : c.stage ≠ .idle
  not_ready : c.stage ≠ .ready
  holds : c.surface.isSome = true

/-- No frame and no input reached the engine from `c` to `d`. -/
def ServesNothing (c d : Controller E H) : Prop :=
  ∃ more, d.session.journal.calls = more ++ c.session.journal.calls ∧
    ∀ record ∈ more, record.call.isServed = false

/-- A call brings a surface, and it is adopted. -/
def Brings (c : Controller E H) : Turn E.Surface H → Prop
  | .called k call => call.brings = true ∧ Succeeds (call.perform k c)
  | .worked _ => False

/-- A call has events for the engine, and finds the controller stuck with the gate open. -/
def Leaks (c : Controller E H) : Turn E.Surface H → Prop
  | .called _ call => c.Stuck ∧ c.isOpen = true ∧ call.events c.pointers ≠ []
  | .worked _ => False

def Sometime (P : Controller E H → Turn E.Surface H → Prop) (c : Controller E H) :
    List (Turn E.Surface H) → Prop
  | [] => False
  | turn :: later => P c turn ∨ (c.turned turn).Sometime P later

/-- Nothing of a surface is left in `c`, and in a run behind it nothing is served. -/
structure Released (c : Controller E H) (later : List (Turn E.Surface H)) : Prop where
  closed : c.isOpen = false
  surface : c.surface = none
  unserved : c.ServesNothing (c.run later)

section Decisions

instance (c : Controller E H) : Decidable c.Stuck :=
  decidable_of_iff (c.stage ≠ .idle ∧ c.stage ≠ .ready ∧ c.surface.isSome = true)
    ⟨fun ⟨notIdle, notReady, holds⟩ => ⟨notIdle, notReady, holds⟩,
      fun stuck => ⟨stuck.not_idle, stuck.not_ready, stuck.holds⟩⟩

instance (c : Controller E H) : DecidablePred c.Brings
  | .called _ _ => inferInstanceAs (Decidable (_ ∧ _))
  | .worked _ => isFalse id

instance (c : Controller E H) : DecidablePred c.Leaks
  | .called _ _ => inferInstanceAs (Decidable (_ ∧ _ ∧ _))
  | .worked _ => isFalse id

instance decidableSometime (P : Controller E H → Turn E.Surface H → Prop)
    [∀ c turn, Decidable (P c turn)] (c : Controller E H) :
    (later : List (Turn E.Surface H)) → Decidable (c.Sometime P later)
  | [] => isFalse id
  | turn :: later =>
      have := decidableSometime P (c.turned turn) later
      inferInstanceAs (Decidable (_ ∨ _))

end Decisions

section Served

theorem servesNothing_iff {more : List (CallRecord E)}
    (grown : more ++ c.session.journal.calls = d.session.journal.calls) :
    c.ServesNothing d ↔ ∀ record ∈ more, record.call.isServed = false := by
  constructor
  · rintro ⟨made, calls, plain⟩
    rwa [List.append_cancel_right (grown.trans calls)]
  · exact fun plain => ⟨more, grown.symm, plain⟩

theorem servesNothing_refl (c : Controller E H) : c.ServesNothing c :=
  ⟨[], rfl, nofun⟩

theorem servesNothing_split (first : c.session.journal <:+ d.session.journal)
    (second : d.session.journal <:+ e.session.journal) :
    c.ServesNothing e ↔ c.ServesNothing d ∧ d.ServesNothing e := by
  obtain ⟨more, grown⟩ := first.filterMap Entry.call?
  obtain ⟨later, grown'⟩ := second.filterMap Entry.call?
  have both : (later ++ more) ++ c.session.journal.calls = e.session.journal.calls := by
    rw [List.append_assoc]
    exact (congrArg (later ++ ·) grown).trans grown'
  rw [servesNothing_iff both, servesNothing_iff grown, servesNothing_iff grown', List.forall_mem_append]
  exact and_comm

theorem servesNothing_of_unserved (grown : c.session.journal <:+ d.session.journal)
    (gated : d.session.Gated) (joined : History.unjoined c.session.journal.history = [])
    (unserved : Outline.Unserved c.outline d.outline) : c.ServesNothing d := by
  obtain ⟨entries, grown⟩ := grown
  obtain ⟨marks, history, plain⟩ := unserved
  have same := Journal.history_of_append grown history
  have frames : Journal.Gated (entries ++ c.session.journal) := grown ▸ gated.frames
  refine ⟨Journal.calls entries, ?_, Journal.unserved_calls frames joined (same ▸ plain)⟩
  rw [← grown]
  exact List.filterMap_append

/-- Events that find the gate open are all that their call leaves on the history. -/
theorem Sound.history_offered (sound : c.Sound) (k : Conditions) (call : HostCall E.Surface H)
    (ready : c.isOpen = true) (offered : call.events c.pointers ≠ []) {entries : Journal E H}
    (grown : entries ++ c.session.journal = (stateOf (call.perform k c)).session.journal) :
    entries.history = ((call.events c.pointers).map fun event => Mark.call (.input event) .ok).reverse := by
  obtain ⟨plan, same, -⟩ := sound.mirrored_call k call
  have told := Outline.call_history (o := c.outline) ready plan k.startable call offered
  rw [same, stateOf_withState] at told
  exact Journal.history_of_append grown told

theorem Sound.serves (sound : c.Sound) (k : Conditions) (call : HostCall E.Surface H)
    (ready : c.isOpen = true) (offered : call.events c.pointers ≠ []) :
    ¬c.ServesNothing (stateOf (call.perform k c)) := by
  obtain ⟨entries, grown⟩ := suffix_turned c (.called k call)
  have marks := sound.history_offered k call ready offered grown
  obtain ⟨event, here⟩ := List.exists_mem_of_ne_nil _ offered
  have marked : .call (.input event) .ok ∈ Journal.history entries := by
    rw [marks, List.mem_reverse]
    exact List.mem_map_of_mem here
  obtain ⟨record, made, input⟩ := Journal.exists_call marked
  have calls : Journal.calls entries ++ c.session.journal.calls =
      (stateOf (call.perform k c)).session.journal.calls :=
    List.filterMap_append.symm.trans (congrArg Journal.calls grown)
  intro nothing
  have unserved := (servesNothing_iff calls).mp nothing record made
  rw [input] at unserved
  cases unserved

end Served

section Down

variable {turn : Turn E.Surface H}

theorem Sound.joined (sound : c.Sound) (down : ¬c.outline.Live) :
    History.unjoined c.session.journal.history = [] :=
  sound.outline.unjoined_eq.trans (congrArg Option.toList (sound.outline.free_of_down down))

theorem Sound.down_turned (sound : c.Sound) (down : ¬c.outline.Live) (unbrought : ¬c.Brings turn) :
    ¬(c.turned turn).outline.Live := by
  cases turn with
  | called k call =>
      have after := (sound.called k call).1
      change ¬(stateOf (call.perform k c)).outline.Live
      cases h : call.perform k c with
      | ok answer d =>
          rw [h] at after
          intro live
          rcases after.lives live with before | ⟨brings, rfl⟩
          · exact down before
          · refine unbrought ⟨brings, ?_⟩
            rw [h]
            trivial
      | error panic d =>
          rw [h] at after
          exact fun live => down (after.2.1 live)
  | worked steps => rwa [turned_worked, outline_rested]

/-- Without a cycle, the gate is open only if the start of a worker panicked. -/
theorem Sound.stuck_of_open (sound : c.Sound) (down : ¬c.outline.Live) (ready : c.isOpen = true) :
    c.Stuck := by
  rcases sound.outline.stands with idle | live | stranded
  · exact nomatch ready.symm.trans idle.closed
  · exact absurd live down
  · exact ⟨stranded.not_idle, stranded.not_ready, (stranded.holds ready).2⟩

/-- What a turn can do: events find the gate open, a surface is adopted, or else nothing is served. -/
theorem Sound.turned_cases (sound : c.Sound) (turn : Turn E.Surface H) :
    Outline.Unserved c.outline (c.turned turn).outline ∨
      (∃ k call, turn = .called k call ∧ c.isOpen = true ∧ call.events c.pointers ≠ []) ∨
      c.Brings turn := by
  cases turn with
  | called k call =>
      have after := (sound.called k call).1
      change Outline.Unserved c.outline (stateOf (call.perform k c)).outline ∨ _
      cases h : call.perform k c with
      | ok answer d =>
          rw [h] at after
          rcases after.unserved with unserved | ⟨ready, offered⟩ | ⟨brings, rfl⟩
          · exact .inl unserved
          · exact .inr (.inl ⟨k, call, rfl, ready, offered⟩)
          · refine .inr (.inr ⟨brings, ?_⟩)
            rw [h]
            trivial
      | error panic d =>
          rw [h] at after
          exact .inl after.2.2
  | worked steps =>
      rw [turned_worked, outline_rested]
      exact .inl (.refl _)

theorem Sound.servesNothing_turned_iff (sound : c.Sound) (down : ¬c.outline.Live)
    (unbrought : ¬c.Brings turn) : c.ServesNothing (c.turned turn) ↔ ¬c.Leaks turn := by
  constructor
  · intro nothing leaks
    cases turn with
    | called k call => exact sound.serves k call leaks.2.1 leaks.2.2 nothing
    | worked steps => exact leaks
  · intro tight
    have gated := (sound.turned turn).gated
    refine servesNothing_of_unserved (suffix_turned c turn) gated (sound.joined down) ?_
    rcases sound.turned_cases turn with unserved | ⟨k, call, rfl, ready, offered⟩ | brings
    · exact unserved
    · exact absurd ⟨sound.stuck_of_open down ready, ready, offered⟩ tight
    · exact absurd brings unbrought

theorem Sound.servesNothing_run_iff (sound : c.Sound) (down : ¬c.outline.Live)
    {later : List (Turn E.Surface H)} (unbrought : ¬c.Sometime Brings later) :
    c.ServesNothing (c.run later) ↔ ¬c.Sometime Leaks later := by
  -- Before each turn the controller is sound and no cycle is up; the calls split at the turn.
  induction later generalizing c with
  | nil => exact iff_of_true (servesNothing_refl c) id
  | cons turn later ih =>
      obtain ⟨here, rest⟩ := not_or.mp unbrought
      have next := ih (sound.turned turn) (sound.down_turned down here) rest
      have step := sound.servesNothing_turned_iff down here
      refine (servesNothing_split (suffix_turned c turn) (suffix_run _ later)).trans ?_
      exact (and_congr step next).trans not_or.symm

end Down

section Stuck

theorem stuck_rested (c : Controller E H) (steps : Nat) : (c.rested steps).Stuck ↔ c.Stuck := by
  constructor
  · intro stuck
    exact ⟨stuck.not_idle, stuck.not_ready, stuck.holds⟩
  · intro stuck
    exact ⟨stuck.not_idle, stuck.not_ready, stuck.holds⟩

theorem Sound.stranded (sound : c.Sound) (stuck : c.Stuck) : c.outline.Stranded := by
  rcases sound.outline.stands with idle | live | stranded
  · exact absurd idle.stage stuck.not_idle
  · exact absurd live.stage stuck.not_ready
  · exact stranded

theorem Sound.stuck_called (sound : c.Sound) (stranded : c.outline.Stranded) (k : Conditions)
    (call : HostCall E.Surface H) : (stateOf (call.perform k c)).Stuck ↔ c.Stuck := by
  obtain ⟨plan, same, -⟩ := sound.mirrored_call k call
  have stays := stranded.stays plan k.startable call
  rw [same, stateOf_withState] at stays
  have stage : (stateOf (call.perform k c)).stage = c.stage := stays.stage
  have surface : (stateOf (call.perform k c)).surface = c.surface := stays.surface
  constructor
  · intro stuck
    exact ⟨stage ▸ stuck.not_idle, stage ▸ stuck.not_ready, surface ▸ stuck.holds⟩
  · intro stuck
    exact ⟨stage ▸ stuck.not_idle, stage ▸ stuck.not_ready, surface ▸ stuck.holds⟩

/-- A controller gets stuck by a call that is left by a panic, and for good. -/
theorem Sound.stuck_called_iff (sound : c.Sound) (k : Conditions) (call : HostCall E.Surface H) :
    (stateOf (call.perform k c)).Stuck ↔
      c.Stuck ∨ ¬Returns (call.perform k c) ∧ (stateOf (call.perform k c)).Stuck := by
  obtain ⟨after, later⟩ := sound.called k call
  constructor
  · intro stuck
    cases h : call.perform k c with
    | ok answer d =>
        rw [h] at after stuck later
        have stranded := after.strands (later.stranded stuck)
        refine .inl ((sound.stuck_called stranded k call).mp ?_)
        rwa [h]
    | error panic d =>
        rw [h] at stuck
        exact .inr ⟨id, stuck⟩
  · rintro (stuck | ⟨-, stuck⟩)
    · exact (sound.stuck_called (sound.stranded stuck) k call).mpr stuck
    · exact stuck

theorem Sound.stuck_run_iff (sound : c.Sound) (turns : List (Turn E.Surface H)) :
    (c.run turns).Stuck ↔
      c.Stuck ∨ ∃ r ∈ c.transcript turns, ¬Returns r ∧ (stateOf r).Stuck := by
  induction turns generalizing c with
  | nil => simp [transcript]
  | cons turn later ih =>
      cases turn with
      | called k call =>
          refine (ih (sound.turned (.called k call))).trans ?_
          refine (or_congr_left (sound.stuck_called_iff k call)).trans ?_
          change _ ↔ c.Stuck ∨ ∃ r ∈ call.perform k c :: (c.turned (.called k call)).transcript later,
            ¬Returns r ∧ (stateOf r).Stuck
          simp [or_assoc]
      | worked steps =>
          exact (ih (sound.turned (.worked steps))).trans (or_congr_left (stuck_rested c steps))

end Stuck

theorem Sound.released (sound : c.Sound) {k : Conditions} (returned : release k c = .ok () d) :
    d.Sound ∧ ¬d.outline.Live ∧ (d.isOpen = false ∧ d.surface = none ↔ ¬c.Stuck) := by
  obtain ⟨plan, same, gated⟩ := sound.mirrored fun _ => Mirrors.release k
  rw [returned] at same gated
  have after := Outline.release_ends sound.outline plan
  rw [same] at after
  obtain ⟨steady, down⟩ := after
  -- A stranded controller ignores that the surface goes, so it has what it had.
  have kept (stranded : c.outline.Stranded) : d.surface = c.surface := by
    have stays := stranded.stays_release plan
    rw [same] at stays
    exact stays.surface
  refine ⟨⟨steady.sound, gated⟩, down, ?_, ?_⟩
  · rintro ⟨-, gone⟩ stuck
    have holds := stuck.holds
    rw [← kept (sound.stranded stuck), gone] at holds
    cases holds
  · intro free
    rcases steady.sound.stands with idle | live | stranded
    · exact ⟨idle.closed, idle.surface⟩
    · exact absurd live down
    · have before := steady.strands stranded
      have none : d.surface = none := by
        cases held : d.surface with
        | none => rfl
        | some surface =>
            refine absurd ⟨before.not_idle, before.not_ready, ?_⟩ free
            rw [← kept before, held]
            rfl
      refine ⟨?_, none⟩
      cases ready : d.isOpen with
      | false => rfl
      | true =>
          have holds : d.surface.isSome = true := (stranded.holds ready).2
          rw [none] at holds
          cases holds

theorem Sound.released_iff (sound : c.Sound) {k : Conditions} (returned : release k c = .ok () d)
    {later : List (Turn E.Surface H)} (unbrought : ¬d.Sometime Brings later) :
    d.Released later ↔ ¬c.Stuck ∧ ¬d.Sometime Leaks later := by
  obtain ⟨left, down, gone⟩ := sound.released returned
  rw [← gone, ← left.servesNothing_run_iff down unbrought]
  exact ⟨fun released => ⟨⟨released.closed, released.surface⟩, released.unserved⟩,
    fun ⟨⟨closed, surface⟩, unserved⟩ => ⟨closed, surface, unserved⟩⟩

theorem Sound.tight_of_returns (sound : c.Sound) (free : ¬c.Stuck) {later : List (Turn E.Surface H)}
    (returned : ∀ r ∈ c.transcript later, Returns r) : ¬c.Sometime Leaks later := by
  induction later generalizing c with
  | nil => exact id
  | cons turn later ih =>
      cases turn with
      | called k call =>
          obtain ⟨first, rest⟩ := List.forall_mem_cons.mp returned
          have next : ¬(stateOf (call.perform k c)).Stuck := fun stuck =>
            ((sound.stuck_called_iff k call).mp stuck).elim free fun panicked => panicked.1 first
          exact not_or.mpr ⟨fun leaks => free leaks.1, ih (sound.called k call).2 next rest⟩
      | worked steps =>
          have next : ¬(c.rested steps).Stuck := fun stuck => free ((stuck_rested c steps).mp stuck)
          exact not_or.mpr ⟨id, ih (sound.turned (.worked steps)) next returned⟩

/-- When the surface goes and no call panics, nothing is left of it. -/
theorem released_of_returns (engine : E.State) (settings : RenderSettings)
    (before later : List (Turn E.Surface H)) (k : Conditions) (d : Controller E H)
    (earlier : ∀ r ∈ (new engine settings : Controller E H).transcript before, Returns r)
    (returned : release k ((new engine settings).run before) = .ok () d)
    (unbrought : ¬d.Sometime Brings later) (thereafter : ∀ r ∈ d.transcript later, Returns r) :
    d.Released later := by
  have start := sound_new (H := H) engine settings
  have free : ¬((new engine settings : Controller E H).run before).Stuck := by
    rw [start.stuck_run_iff before]
    rintro (stuck | ⟨r, made, panicked, -⟩)
    · exact stuck.not_idle rfl
    · exact panicked (earlier r made)
  have sound := start.run before
  obtain ⟨left, -, gone⟩ := sound.released returned
  have empty : ¬d.Stuck := fun stuck => by
    have holds := stuck.holds
    rw [(gone.mpr free).2] at holds
    cases holds
  exact (sound.released_iff returned unbrought).mpr ⟨free, left.tight_of_returns empty thereafter⟩

/-- When the surface goes nothing is left of it, and nothing is served until another is adopted,
exactly if no earlier call was left by a panic amid a cycle with the surface in hand, and no events
come later to a controller that a panic left so with its gate open. -/
theorem release_leaves_nothing_iff (engine : E.State) (settings : RenderSettings)
    (before later : List (Turn E.Surface H)) (k : Conditions) (d : Controller E H)
    (returned : release k ((new engine settings).run before) = .ok () d)
    (unbrought : ¬d.Sometime Brings later) :
    d.Released later ↔
      (∀ r ∈ (new engine settings).transcript before, ¬Returns r → ¬(stateOf r).Stuck) ∧
        ¬d.Sometime Leaks later := by
  have start := sound_new (H := H) engine settings
  have unstuck : ¬((new engine settings).run before).Stuck ↔
      ∀ r ∈ (new engine settings : Controller E H).transcript before,
        ¬Returns r → ¬(stateOf r).Stuck := by
    have fresh : ¬(new engine settings : Controller E H).Stuck := fun stuck => stuck.not_idle rfl
    rw [start.stuck_run_iff before]
    simp [fresh]
  rw [(start.run before).released_iff returned unbrought, unstuck]

/-- The engine panics at its first preparation, so the controller is left without a surface, and
nothing is left when it goes. -/
theorem release_leaves_nothing_unprepared :
    (stateOf (release .calm ((new ⟨none, [.panicked .other], [], [], [], .ok, none⟩ .default :
      Controller Script.engine Unit).run
        [.called .calm (.sized ⟨800, 600⟩ (1 : Nat) (.ofRead fun path => .error (.of path)))]))).Released
      [.called .calm (.key ⟨0, 4⟩), .worked 3,
        .called .calm (.sized ⟨800, 600⟩ (2 : Nat) (.ofRead fun path => .error (.of path)))] :=
  (release_leaves_nothing_iff _ _ _ _ _ _ (Returns.eq (by decide +kernel)) (by decide +kernel)).mpr
    (by decide +kernel)

/-- Behind a call that brings a surface, whose worker cannot be started: no thread can have its name. -/
def misnamed : Controller Script.engine Unit :=
  (new ⟨none, [], [], [], [], .ok, none⟩ { RenderSettings.default with workerName := "a\x00b" } :
    Controller Script.engine Unit).run
      [.called .calm (.sized ⟨800, 600⟩ (1 : Nat) (.ofRead fun path => .error (.of path)))]

/-- The start of the worker panics behind the open gate. When the surface goes it is kept, the gate
stays open, and a key reaches the engine. -/
theorem release_keeps_misnamed :
    release .calm misnamed = .ok () (stateOf (release .calm misnamed)) ∧
      (stateOf (release .calm misnamed)).isOpen = true ∧
      (stateOf (release .calm misnamed)).surface.isSome = true ∧
      ¬(stateOf (release .calm misnamed)).Sometime Brings [.called .calm (.key ⟨0, 4⟩)] ∧
      ¬(stateOf (release .calm misnamed)).ServesNothing
        ((stateOf (release .calm misnamed)).run [.called .calm (.key ⟨0, 4⟩)]) := by
  have returned : release .calm misnamed = .ok () (stateOf (release .calm misnamed)) :=
    Returns.eq (by decide +kernel)
  have sound := ((sound_new _ _).run _).released returned
  exact ⟨returned, by decide +kernel, by decide +kernel, by decide +kernel,
    sound.1.serves .calm (.key ⟨0, 4⟩) (by decide +kernel) (by decide +kernel)⟩

end SurfaceGate.Controller
