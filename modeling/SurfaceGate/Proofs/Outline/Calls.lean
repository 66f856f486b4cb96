import SurfaceGate.Proofs.Outline.Cycle
import SurfaceGate.Proofs.Outline.Run

/-!
Every call of the host leaves a sound outline sound.

Only a panic strands an outline, and only an adoption that returns makes one live. What a stranded
outline does not do any more is begin or end a cycle: it refuses new surfaces and ignores that the old
one goes.
-/

namespace SurfaceGate.Outline

variable {S H : Type} {α : Type} {o p : Outline S} {plan : Plan}

theorem Live.not_stranded (live : Live o) : ¬Stranded o :=
  fun stranded => stranded.not_ready live.stage

theorem Idle.not_stranded (idle : Idle o) : ¬Stranded o :=
  fun stranded => stranded.not_idle idle.stage

theorem Idle.not_live (idle : Idle o) : ¬Live o := by
  intro live
  have both := idle.stage.symm.trans live.stage
  cases both

/-- A call that makes nothing live and strands nothing. Unless `told`, nothing reached the engine
through an open gate. -/
structure Steady (o : Outline S) (told : Prop) (p : Outline S) : Prop where
  sound : Sound p
  lives : Live p → Live o
  strands : Stranded p → Stranded o
  unserved : Unserved o p ∨ told

theorem Steady.refl {told : Prop} (sound : Sound o) : Steady o told o :=
  ⟨sound, id, id, .inl (.refl o)⟩

theorem Steady.trans {q : Outline S} {told : Prop} (first : Steady o told p)
    (second : Steady p told q) : Steady o told q := by
  refine ⟨second.sound, first.lives ∘ second.lives, first.strands ∘ second.strands, ?_⟩
  rcases first.unserved with before | told
  · exact second.unserved.imp_left before.trans
  · exact .inr told

theorem Steady.imp {told told' : Prop} (steady : Steady o told p) (h : told → told') :
    Steady o told' p :=
  ⟨steady.sound, steady.lives, steady.strands, steady.unserved.imp_right h⟩

theorem Steady.of_idle {told : Prop} (sound : Sound p) (idle : Idle p) (unserved : Unserved o p) :
    Steady o told p :=
  ⟨sound, fun live => absurd live idle.not_live, fun stranded => absurd stranded idle.not_stranded,
    .inl unserved⟩

/-- What a call that returns leaves of a sound outline: it may have brought a surface that makes it
live. -/
structure Left (o : Outline S) (brought told : Prop) (p : Outline S) : Prop where
  sound : Sound p
  lives : Live p → Live o ∨ brought
  strands : Stranded p → Stranded o
  unserved : Unserved o p ∨ told ∨ brought

theorem Steady.left {brought told : Prop} (steady : Steady o told p) : Left o brought told p :=
  ⟨steady.sound, .inl ∘ steady.lives, steady.strands, steady.unserved.imp_right .inl⟩

theorem idle_new (startPanic? : Nat → Option Panic) : Idle (new startPanic? : Outline S) :=
  ⟨rfl, rfl, rfl, rfl, rfl, rfl⟩

theorem sound_new (startPanic? : Nat → Option Panic) : Sound (new startPanic? : Outline S) where
  lawful := trivial
  ready_eq := rfl
  unjoined_eq := rfl
  finished_iff := ⟨nofun, fun ⟨_, h⟩ => nomatch h⟩
  prepared_iff := ⟨nofun, fun ⟨⟨_, h⟩, _⟩ => nomatch h⟩
  started_le _ h := nomatch h
  count := rfl
  ends := nofun
  spent := nofun
  stands := .inl (idle_new startPanic?)

section Courses

variable {startable : Bool} {size : Extent} {surface : S}

theorem Came.left {told : Prop} {answer : Except GateError Unit}
    (came : Came o startable size surface answer p) : Left o (answer = .ok ()) told p := by
  obtain ⟨course, rfl, took⟩ := came
  by_cases up : course = .up
  · subst up
    have live := (took.up rfl).2
    exact ⟨took.sound, fun _ => .inr rfl, fun stranded => absurd stranded live.not_stranded,
      .inr (.inr rfl)⟩
  · obtain ⟨idle, unserved⟩ := took.down up
    exact (Steady.of_idle took.sound idle unserved).left

theorem Came.ok_of_live {answer : Except GateError Unit}
    (came : Came o startable size surface answer p) (live : Live p) : answer = .ok () := by
  obtain ⟨course, rfl, took⟩ := came
  by_cases up : course = .up
  · rw [up]
    rfl
  · exact absurd live (took.down up).1.not_live

end Courses

theorem Sound.alive (sound : Sound o) (lasts : o.ended = false) : o.phase ≠ .finished := by
  intro finished
  rw [sound.ends finished] at lasts
  cases lasts

theorem Idle.amid (idle : Idle o) (sound : Sound o) (lasts : o.ended = false) : Amid o .idle o :=
  ⟨sound.toKept, .refl o, idle.stage, idle.closed, idle.free, lasts, sound.alive lasts, sound.count⟩

theorem Live.amid (live : Live o) (sound : Sound o) : Amid o .ready o.closed.retired := by
  have lasts := live.lasts sound
  exact live.stage ▸ sound.toKept.halted lasts (sound.alive lasts) sound.count (.refl o)

theorem adopt_of_ended (ended : o.ended = true) (plan : Plan) (startable : Bool)
    (size : Extent) (surface : S) :
    Draft.adopt plan startable size surface o = .ok (.error (.ordering .adoptAfterEnd)) o := by
  refine (get_bind _ o).trans ?_
  rw [if_pos ended]
  rfl

theorem Stranded.adopt (stranded : Stranded o) (plan : Plan) (startable : Bool) (size : Extent)
    (surface : S) : ∃ error, Draft.adopt plan startable size surface o = .ok (.error error) o := by
  by_cases ended : o.ended = true
  · exact ⟨.ordering .adoptAfterEnd, adopt_of_ended ended plan startable size surface⟩
  · refine ⟨.ordering .adoptReentered, (get_bind _ o).trans ?_⟩
    rw [if_neg ended]
    cases stage : o.stage with
    | idle => exact absurd stage stranded.not_idle
    | ready => exact absurd stage stranded.not_ready
    | preparing | binding | dismantling => rfl

theorem Sound.live (sound : Sound o) (ready : o.stage = .ready) : Live o := by
  rcases sound.stands with idle | live | stranded
  · exact nomatch idle.stage.symm.trans ready
  · exact live
  · exact absurd ready stranded.not_ready

/-- Before the end, and unless it is stranded, an outline is idle or live, and a cycle may begin. -/
theorem Sound.adopt (sound : Sound o) (lasts : o.ended = false) (settled : ¬Stranded o) (plan : Plan)
    (startable : Bool) (size : Extent) (surface : S) :
    Ends o (Came o startable size surface) (Draft.adopt plan startable size surface o) := by
  simp only [Draft.adopt]
  refine Ends.after (a := o) (p := o) rfl ?_
  rw [if_neg (by simp [lasts])]
  rcases sound.stands with idle | live | stranded
  · rw [idle.stage]
    exact (idle.amid sound lasts).beginCycle rfl rfl plan startable size surface
  · rw [live.stage]
    refine Ends.after rfl (Ends.after rfl ?_)
    exact (live.amid sound).beginCycle (calls_retired _) rfl plan startable size surface
  · exact absurd stranded settled

/-- A cycle is up behind an adoption only if it succeeds. -/
theorem adopt_ends (sound : Sound o) (plan : Plan) (startable : Bool) (size : Extent) (surface : S) :
    Ends o (fun answer p => Left o (answer = .ok ()) False p ∧ (Live p → answer = .ok ()))
      (Draft.adopt plan startable size surface o) := by
  by_cases stranded : Stranded o
  · obtain ⟨error, refused⟩ := stranded.adopt plan startable size surface
    rw [refused]
    exact ⟨(Steady.refl sound).left, fun live => absurd stranded live.not_stranded⟩
  · cases ended : o.ended with
    | true =>
        rw [adopt_of_ended ended]
        refine ⟨(Steady.refl sound).left, fun live => ?_⟩
        exact nomatch ended.symm.trans (live.lasts sound)
    | false =>
        refine (sound.adopt ended stranded plan startable size surface).imp fun _ _ came => ?_
        exact ⟨came.left, came.ok_of_live⟩

/-- A worker belongs to a cycle that is up. -/
theorem Sound.free_of_down (sound : Sound o) (down : ¬Live o) : o.worker = none := by
  rcases sound.stands with idle | live | stranded
  · exact idle.free
  · exact absurd live down
  · exact stranded.free

theorem Sound.closed_of_ended (sound : Sound o) (ended : o.ended = true) : o.ready = false := by
  rcases sound.stands with idle | live | stranded
  · exact idle.closed
  · exact Bool.noConfusion (ended.symm.trans (live.lasts sound))
  · exact Bool.eq_false_iff.mpr fun ready => sound.spent ended (stranded.holds ready).1

theorem release_of_not_ready (plan : Plan) (elsewhere : o.stage ≠ .ready) :
    Draft.release plan o = .ok () o := by
  refine (get_bind _ o).trans ?_
  rw [if_neg elsewhere]
  rfl

theorem release_of_ready (plan : Plan) (ready : o.stage = .ready) :
    Draft.release plan o = Draft.dismantle plan o := by
  refine (get_bind _ o).trans ?_
  rw [if_pos ready]

theorem release_ends (sound : Sound o) (plan : Plan) :
    Ends o (fun _ p => Steady o False p ∧ ¬Live p) (Draft.release plan o) := by
  simp only [Draft.release]
  refine Ends.after (a := o) (p := o) rfl ?_
  by_cases ready : o.stage = .ready
  · rw [if_pos ready]
    refine ((sound.live ready).dismantle sound plan).imp fun _ p down => ?_
    exact ⟨.of_idle down.1 down.2.1 down.2.2, down.2.1.not_live⟩
  · rw [if_neg ready]
    exact ⟨.refl sound, fun live => ready live.stage⟩

def finished (o : Outline S) : Outline S :=
  { o.mark (.call .finish .ok) with phase := .finished, bound := false, ended := true }

/-- What the end of the activity leaves when nothing is open any more. -/
def concluded (o : Outline S) : Outline S :=
  if o.phase = .prepared then o.finished else { o with ended := true }

theorem finishEngine_eq (closed : o.ready = false) (free : o.worker = none) :
    Draft.finishEngine o = .ok (.ok ()) o.concluded := by
  refine (get_bind _ o).trans ?_
  rw [if_neg (by simp [free])]
  by_cases prepared : o.phase = .prepared
  · have finishes : Draft.finish o = .ok (.ok true)
        { o.mark (.call .finish .ok) with phase := .finished, bound := false } := by
      refine (get_bind _ o).trans ?_
      rw [if_neg (by simp [closed]), if_pos prepared]
      rfl
    rw [bind_of_ok finishes, concluded, if_pos prepared]
    rfl
  · have finishes : Draft.finish o = .ok (.ok false) o := by
      refine (get_bind _ o).trans ?_
      rw [if_neg (by simp [closed]), if_neg prepared]
      rfl
    rw [bind_of_ok finishes, concluded, if_neg prepared]
    rfl

theorem Sound.finished (sound : Sound o) (closed : o.ready = false) (free : o.worker = none)
    (prepared : o.phase = .prepared) (down : Idle o ∨ Stranded o) : Steady o False o.finished := by
  have unserved : Unserved o o.finished := (Unserved.refl o).marked rfl rfl
  have done : History.Finished o.finished.history := ⟨.ok, List.mem_cons_self⟩
  have kept : Kept o.finished :=
    { lawful := ⟨⟨sound.quiet closed free, sound.prepared_iff.mp prepared⟩, sound.lawful⟩
      ready_eq := sound.ready_eq
      unjoined_eq := sound.unjoined_eq
      finished_iff := ⟨fun _ => done, fun _ => rfl⟩
      prepared_iff := ⟨nofun, fun h => absurd done h.2⟩
      started_le := fun cycle h => (List.mem_cons.mp h).elim nofun (sound.started_le cycle) }
  rcases down with idle | stranded
  · have left : Idle o.finished :=
      ⟨idle.stage, idle.closed, idle.free, idle.surface, idle.size, rfl⟩
    exact .of_idle ⟨kept, sound.count, fun _ => rfl, fun _ => nofun, .inl left⟩ left unserved
  · have left : Stranded o.finished := by
      refine ⟨stranded.not_idle, stranded.not_ready, stranded.free, fun ready => ?_⟩
      rw [show o.finished.ready = false from closed] at ready
      cases ready
    refine ⟨⟨kept, sound.count, fun _ => rfl, fun _ => nofun, .inr (.inr left)⟩, ?_, fun _ => stranded,
      .inl unserved⟩
    exact fun live => absurd left live.not_stranded

theorem Sound.ended (sound : Sound o) (unprepared : o.phase ≠ .prepared)
    (down : Idle o ∨ Stranded o) : Steady o False { o with ended := true } := by
  have unserved : Unserved o { o with ended := true } := (Unserved.refl o).same rfl
  have kept : Kept { o with ended := true } := sound.toKept.same rfl rfl rfl rfl (Nat.le_refl _)
  rcases down with idle | stranded
  · have left : Idle { o with ended := true } :=
      ⟨idle.stage, idle.closed, idle.free, idle.surface, idle.size, idle.unbound⟩
    exact .of_idle ⟨kept, sound.count, fun _ => rfl, fun _ => unprepared, .inl left⟩ left unserved
  · have left : Stranded { o with ended := true } :=
      ⟨stranded.not_idle, stranded.not_ready, stranded.free, stranded.holds⟩
    refine ⟨⟨kept, sound.count, fun _ => rfl, fun _ => unprepared, .inr (.inr left)⟩, ?_,
      fun _ => stranded, .inl unserved⟩
    exact fun live => absurd left live.not_stranded

theorem finishEngine_ends (sound : Sound o) (down : Idle o ∨ Stranded o) :
    Ends o (fun _ p => Steady o False p) (Draft.finishEngine o) := by
  have free : o.worker = none := down.elim Idle.free Stranded.free
  simp only [Draft.finishEngine]
  refine Ends.after (a := o) (p := o) rfl ?_
  rw [if_neg (by simp [free])]
  have finishes : Ends o (fun answer p => match answer with
      | .ok _ => Steady o False { p with ended := true }
      | .error _ => Steady o False p) (Draft.finish o) := by
    simp only [Draft.finish]
    refine Ends.after (a := o) (p := o) rfl ?_
    cases ready : o.ready with
    | true => exact .refl sound
    | false =>
        rw [if_neg (by simp)]
        by_cases prepared : o.phase = .prepared
        · rw [if_pos prepared]
          refine Ends.after rfl (Ends.after rfl ?_)
          exact sound.finished ready free prepared down
        · rw [if_neg prepared]
          exact sound.ended prepared down
  refine Ends.bind finishes fun answer p after => ?_
  cases answer with
  | error error => exact after
  | ok called => exact after

theorem closeActivity_ends (sound : Sound o) (plan : Plan) :
    Ends o (fun _ p => Steady o False p ∧ ¬Live p) (Draft.closeActivity plan o) := by
  simp only [Draft.closeActivity]
  refine Ends.after (a := o) (p := o) rfl ?_
  cases ended : o.ended with
  | true => exact ⟨.refl sound, fun live => nomatch ended.symm.trans (live.lasts sound)⟩
  | false =>
      rw [if_neg (by simp)]
      by_cases ready : o.stage = .ready
      · rw [if_pos ready]
        refine Ends.bind ((sound.live ready).dismantle sound plan) fun _ p down => ?_
        refine Ends.rebase ?_ down.2.2
        refine (finishEngine_ends down.1 (.inl down.2.1)).imp fun _ q steady => ?_
        exact ⟨(Steady.of_idle down.1 down.2.1 down.2.2).trans steady,
          fun live => down.2.1.not_live (steady.lives live)⟩
      · rw [if_neg ready]
        refine (finishEngine_ends sound ?_).imp fun _ p steady =>
          ⟨steady, fun live => ready (steady.lives live).stage⟩
        rcases sound.stands with idle | live | stranded
        · exact .inl idle
        · exact absurd live.stage ready
        · exact .inr stranded

theorem discard_ends (sound : Sound o) (plan : Plan) :
    Ends o (fun _ p => Steady o False p ∧ ¬Live p) (Draft.discard plan o) := by
  simp only [Draft.discard]
  refine Ends.after (a := o) (p := o) rfl ?_
  have rests {p : Outline S} (steady : Steady o False p) (down : ¬Live p) (free : p.worker = none) :
      Ends o (fun _ q => Steady o False q ∧ ¬Live q) ((modify retired : Draft S Unit) p) := by
    change Steady o False p.retired ∧ ¬Live p.retired
    rw [retired_of_free free]
    exact ⟨steady, down⟩
  by_cases ready : o.stage = .ready
  · rw [if_pos ready]
    refine Ends.bind ((sound.live ready).dismantle sound plan) fun _ p down => ?_
    exact rests (.of_idle down.1 down.2.1 down.2.2) down.2.1.not_live down.2.1.free
  · rw [if_neg ready]
    have down (live : Live o) : False := ready live.stage
    exact rests (.refl sound) down (sound.free_of_down down)

/-- Input shows on the pointers, on the history and on the number of dropped events. -/
theorem Sound.steady (sound : Sound o) {pointers : Input.Pointers} {dropped : Nat}
    {history : History S} {told : Prop} (kept : Kept { o with pointers, dropped, history })
    (lifecycle : History.lifecycle history = History.lifecycle o.history)
    (taken : History.taken history = History.taken o.history)
    (unserved : Unserved o { o with pointers, dropped, history } ∨ told) :
    Steady o told { o with pointers, dropped, history } := by
  have count := taken.trans sound.count
  rcases sound.stands with idle | live | stranded
  · have still : Idle { o with pointers, dropped, history } :=
      ⟨idle.stage, idle.closed, idle.free, idle.surface, idle.size, idle.unbound⟩
    refine ⟨⟨kept, count, sound.ends, sound.spent, .inl still⟩, ?_, ?_, unserved⟩
    · exact fun live => absurd live still.not_live
    · exact fun stranded => absurd stranded still.not_stranded
  · obtain ⟨surface, size, held, sized, earlier, last⟩ := live.last
    have still : Live { o with pointers, dropped, history } :=
      ⟨live.stage, live.ready, live.worker, live.bound, live.prepared, surface, size, held, sized,
        earlier, lifecycle.trans last⟩
    refine ⟨⟨kept, count, sound.ends, sound.spent, .inr (.inl still)⟩, fun _ => live, ?_, unserved⟩
    exact fun stranded => absurd stranded still.not_stranded
  · have still : Stranded { o with pointers, dropped, history } :=
      ⟨stranded.not_idle, stranded.not_ready, stranded.free, stranded.holds⟩
    refine ⟨⟨kept, count, sound.ends, sound.spent, .inr (.inr still)⟩, ?_, fun _ => stranded, unserved⟩
    exact fun live => absurd still live.not_stranded

/-- An event reaches the engine if the gate is open, and is dropped if it is closed. -/
def told (o : Outline S) (event : Input.Event) : Outline S :=
  if o.ready then o.mark (.call (.input event) .ok) else { o with dropped := o.dropped + 1 }

theorem told_ready (o : Outline S) (event : Input.Event) : (o.told event).ready = o.ready := by
  simp only [told]
  split
  · rfl
  · rfl

theorem told_history (ready : o.ready = true) (events : List Input.Event) :
    (events.foldl Outline.told o).history =
      (events.map fun event => Mark.call (.input event) .ok).reverse ++ o.history := by
  induction events generalizing o with
  | nil => rfl
  | cons event rest ih =>
      have told : o.told event = o.mark (.call (.input event) .ok) := if_pos ready
      rw [List.foldl_cons, ih ((told_ready o event).trans ready), told]
      simp [mark]

theorem Sound.told (sound : Sound o) (event : Input.Event) :
    Steady o (o.ready = true) (o.told event) := by
  simp only [Outline.told]
  split
  · next ready => exact sound.steady (sound.fed ready event) rfl rfl (.inr ready)
  · have kept : Kept { o with dropped := o.dropped + 1 } :=
      sound.toKept.same rfl rfl rfl rfl (Nat.le_refl _)
    exact sound.steady kept rfl rfl (.inl ((Unserved.refl o).same rfl))

theorem Sound.tell (sound : Sound o) (events : List Input.Event) :
    Steady o (o.ready = true ∧ events ≠ []) (events.foldl Outline.told o) := by
  induction events generalizing o with
  | nil => exact .refl sound
  | cons event rest ih =>
      have first := sound.told event
      have others := ih first.sound
      rw [told_ready] at others
      exact (first.imp fun ready => ⟨ready, nofun⟩).trans (others.imp fun h => ⟨h.1, nofun⟩)

theorem feed_eq (event : Input.Event) (o : Outline S) :
    Draft.feed event o =
      if o.ready then .ok true (o.mark (.call (.input event) .ok)) else .ok false o := by
  refine (get_bind _ o).trans ?_
  cases o.ready <;> rfl

theorem deliver_eq (events : List Input.Event) (o : Outline S) :
    Draft.deliver events o =
      .ok (if o.ready then events.length else 0) (events.foldl Outline.told o) := by
  induction events generalizing o with
  | nil =>
      rw [List.length_nil, ite_self]
      rfl
  | cons event rest ih =>
      have first := feed_eq event o
      have next := ih (o.told event)
      rw [told_ready] at next
      simp only [Draft.deliver]
      rw [List.foldl_cons]
      cases ready : o.ready with
      | true =>
          have told : o.told event = o.mark (.call (.input event) .ok) := if_pos ready
          rw [ready, if_pos rfl, ← told] at first
          rw [ready] at next
          refine (bind_of_ok first).trans ((bind_of_ok next).trans ?_)
          simp [pure, EStateM.pure, Nat.add_comm]
      | false =>
          have drops : (modify fun o => { o with dropped := o.dropped + 1 } : Draft S Unit) o =
              .ok () (o.told event) :=
            congrArg (EStateM.Result.ok ()) (if_neg (by simp [ready])).symm
          rw [ready, if_neg (by simp)] at first
          rw [ready] at next
          refine (bind_of_ok first).trans ?_
          simp only [Bool.not_false, ↓reduceIte]
          refine (bind_of_ok drops).trans ((bind_of_ok next).trans ?_)
          simp [pure, EStateM.pure]

theorem motion_eq (batch : Input.Motion) (o : Outline S) :
    Draft.motion batch o =
      .ok (if o.ready then (o.pointers.absorb batch).events.length else 0)
        ((o.pointers.absorb batch).events.foldl Outline.told
          { o with pointers := (o.pointers.absorb batch).pointers }) :=
  deliver_eq _ { o with pointers := (o.pointers.absorb batch).pointers }

theorem key_eq (pressed : Input.Key) (o : Outline S) :
    Draft.key pressed o =
      .ok (o.ready && pressed.event?.isSome) (pressed.event?.toList.foldl Outline.told o) := by
  simp only [Draft.key]
  cases pressed.event? with
  | none =>
      rw [Option.isSome_none, Bool.and_false]
      rfl
  | some event =>
      refine (bind_of_ok (deliver_eq [event] o)).trans ?_
      cases ready : o.ready <;> rfl

theorem motion_ends (sound : Sound o) (batch : Input.Motion) :
    Ends o (fun _ p => Steady o (o.ready = true ∧ (o.pointers.absorb batch).events ≠ []) p)
      (Draft.motion batch o) := by
  rw [motion_eq]
  have kept : Kept { o with pointers := (o.pointers.absorb batch).pointers } :=
    sound.toKept.same rfl rfl rfl rfl (Nat.le_refl _)
  have absorbed : Steady o (o.ready = true ∧ (o.pointers.absorb batch).events ≠ [])
      { o with pointers := (o.pointers.absorb batch).pointers } :=
    sound.steady kept rfl rfl (.inl ((Unserved.refl o).same rfl))
  exact absorbed.trans (absorbed.sound.tell _)

theorem key_ends (sound : Sound o) (pressed : Input.Key) :
    Ends o (fun _ p => Steady o (o.ready = true ∧ pressed.event?.toList ≠ []) p)
      (Draft.key pressed o) := by
  rw [key_eq]
  exact sound.tell _

end SurfaceGate.Outline

namespace SurfaceGate

/-- Whether the call brings a surface with a size. -/
def HostCall.brings {S H : Type} : HostCall S H → Bool
  | .sized .. | .reported (.sized ..) => true
  | _ => false

theorem HostCall.sized_of_brings {S H : Type} {call : HostCall S H} (brings : call.brings = true) :
    ∃ size surface assets,
      call = .sized size surface assets ∨ call = .reported (.sized size surface assets) := by
  cases call with
  | sized size surface assets => exact ⟨size, surface, assets, .inl rfl⟩
  | reported report =>
      cases report with
      | sized size surface assets => exact ⟨size, surface, assets, .inr rfl⟩
      | appeared | vanished | ended | motion _ | key _ => cases brings
  | opened _ | focused _ _ | appeared | vanished | ended | motion _ | key _ | discarded => cases brings

/-- The events that a call offers the engine, when some pointers are down. -/
def HostCall.events {S H : Type} (pointers : Input.Pointers) : HostCall S H → List Input.Event
  | .motion batch | .reported (.motion batch) => (pointers.absorb batch).events
  | .key pressed | .reported (.key pressed) => pressed.event?.toList
  | _ => []

namespace Outline

variable {S H : Type} {α : Type} {o : Outline S} {brings : Bool} {told : Prop}

/-- What a call leaves of a sound outline. Only a call that brings a surface makes it live, and only
events that find the gate open reach the engine. -/
def After (o : Outline S) (brings : Bool) (told : Prop) :
    EStateM.Result Panic (Outline S) Answer → Prop
  | .ok answer p => Left o (brings = true ∧ answer = .result (.ok ())) told p
  | .error _ p => Sound p ∧ (Live p → Live o) ∧ Unserved o p

theorem After.of_ends {x : Draft S α} {answer : α → Answer}
    (ends : Ends o (fun a p => Left o (brings = true ∧ answer a = .result (.ok ())) told p) (x o)) :
    After o brings told ((do return answer (← x) : Draft S Answer) o) := by
  cases hx : x o with
  | ok a p =>
      rw [hx] at ends
      rw [bind_of_ok hx]
      exact ends
  | error panic p =>
      rw [hx] at ends
      rw [bind_of_error hx]
      exact ⟨ends.sound, fun live => absurd ends.stranded live.not_stranded, ends.unserved⟩

theorem After.of_steady {x : Draft S α} {answer : α → Answer}
    (ends : Ends o (fun _ p => Steady o told p) (x o)) :
    After o brings told ((do return answer (← x) : Draft S Answer) o) :=
  of_ends (ends.imp fun _ _ steady => steady.left)

/-- What only asks the host, or nobody, leaves the outline as it is. -/
theorem After.of_still {x : Draft S α} (answer : α → Answer) (sound : Sound o)
    (still : stateOf (x o) = o) :
    After o brings told ((do return answer (← x) : Draft S Answer) o) := by
  cases hx : x o with
  | ok a p =>
      rw [hx] at still
      rw [bind_of_ok hx, show p = o from still]
      exact (Steady.refl sound).left
  | error panic p =>
      rw [hx] at still
      rw [bind_of_error hx, show p = o from still]
      exact ⟨sound, id, .refl o⟩

theorem stateOf_conduct (conduct : Conduct H α) (o : Outline S) : stateOf (conduct.draft o) = o := by
  simp only [Conduct.draft]
  cases conduct.answer <;> rfl

theorem stateOf_bind {β : Type} {x : Draft S α} {f : α → Draft S β} (first : stateOf (x o) = o)
    (next : ∀ a, stateOf (f a o) = o) : stateOf ((x >>= f) o) = o := by
  cases hx : x o with
  | ok a p =>
      rw [hx] at first
      rw [bind_of_ok hx, show p = o from first]
      exact next a
  | error panic p =>
      rw [hx] at first
      rw [bind_of_error hx]
      exact first

theorem stateOf_host (host : HostConduct H) (o : Outline S) : stateOf (host.draft o) = o :=
  stateOf_bind (stateOf_conduct _ o) fun _ => stateOf_bind (stateOf_conduct _ o) fun _ => rfl

theorem report_ends (sound : Sound o) (plan : Plan) (startable : Bool) (report : Report S) :
    Ends o (fun answer p => Left o
        ((HostCall.reported (H := H) report).brings = true ∧ Answer.result answer = .result (.ok ()))
        (o.ready = true ∧ (HostCall.reported (H := H) report).events o.pointers ≠ []) p)
      (Draft.report plan startable report o) := by
  cases report with
  | appeared => exact (Steady.refl sound).left
  | sized size surface assets =>
      refine (adopt_ends sound plan startable size surface).imp fun answer p ⟨left, _⟩ => ?_
      have brought (ok : answer = .ok ()) : true = true ∧ Answer.result answer = .result (.ok ()) :=
        ⟨rfl, congrArg Answer.result ok⟩
      refine ⟨left.sound, fun live => (left.lives live).imp_right brought, left.strands, ?_⟩
      exact left.unserved.imp_right fun h => .inr (brought (h.resolve_left id))
  | vanished => exact Ends.bind (release_ends sound plan) fun _ p after => (after.1.imp nofun).left
  | ended => exact (closeActivity_ends sound plan).imp fun _ _ after => (after.1.imp nofun).left
  | motion batch => exact Ends.bind (motion_ends sound batch) fun _ p steady => steady.left
  | key pressed => exact Ends.bind (key_ends sound pressed) fun _ p steady => steady.left

theorem call_after (sound : Sound o) (plan : Plan) (startable : Bool) (call : HostCall S H) :
    After o call.brings (o.ready = true ∧ call.events o.pointers ≠ [])
      (call.draft plan startable o) := by
  cases call with
  | opened host => exact After.of_still (fun _ => .done) sound (stateOf_host host o)
  | focused host hasFocus =>
      cases hasFocus with
      | false => exact (Steady.refl sound).left
      | true => exact After.of_still (fun _ => .done) sound (stateOf_conduct host.fillScreen o)
  | appeared => exact (Steady.refl sound).left
  | sized size surface assets =>
      exact After.of_ends (report_ends (H := H) sound plan startable (.sized size surface assets))
  | vanished =>
      exact After.of_steady ((release_ends sound plan).imp fun _ _ after => after.1.imp nofun)
  | ended =>
      exact After.of_steady ((closeActivity_ends sound plan).imp fun _ _ after => after.1.imp nofun)
  | motion batch => exact After.of_steady (motion_ends sound batch)
  | key pressed => exact After.of_steady (key_ends sound pressed)
  | reported report => exact After.of_ends (report_ends sound plan startable report)
  | discarded =>
      exact After.of_steady ((discard_ends sound plan).imp fun _ _ after => after.1.imp nofun)

theorem motion_history (ready : o.ready = true) (batch : Input.Motion) :
    (stateOf (Draft.motion batch o)).history =
      ((o.pointers.absorb batch).events.map fun event => Mark.call (.input event) .ok).reverse ++
        o.history := by
  rw [motion_eq]
  exact told_history (o := { o with pointers := (o.pointers.absorb batch).pointers }) ready _

theorem key_history (ready : o.ready = true) (pressed : Input.Key) :
    (stateOf (Draft.key pressed o)).history =
      (pressed.event?.toList.map fun event => Mark.call (.input event) .ok).reverse ++ o.history := by
  rw [key_eq]
  exact told_history ready _

theorem call_history (ready : o.ready = true) (plan : Plan) (startable : Bool) (call : HostCall S H)
    (offered : call.events o.pointers ≠ []) :
    (stateOf (call.draft plan startable o)).history =
      ((call.events o.pointers).map fun event => Mark.call (.input event) .ok).reverse ++ o.history := by
  cases call with
  | motion batch => exact (congrArg history (stateOf_return _ _ o)).trans (motion_history ready batch)
  | key pressed => exact (congrArg history (stateOf_return _ _ o)).trans (key_history ready pressed)
  | reported report =>
      refine (congrArg history (stateOf_return _ _ o)).trans ?_
      cases report with
      | motion batch =>
          exact (congrArg history (stateOf_return _ _ o)).trans (motion_history ready batch)
      | key pressed =>
          exact (congrArg history (stateOf_return _ _ o)).trans (key_history ready pressed)
      | appeared | sized _ _ _ | vanished | ended => exact absurd rfl offered
  | opened _ | focused _ _ | appeared | sized _ _ _ | vanished | ended | discarded =>
      exact absurd rfl offered

theorem After.sound {r : EStateM.Result Panic (Outline S) Answer}
    (after : After o brings told r) : Sound (stateOf r) := by
  cases r with
  | ok answer p => exact Left.sound after
  | error panic p => exact after.1

end Outline

namespace Controller

variable {E : Engine} {H : Type} {c : Controller E H}

/-- A controller that was reached by calls, whether these returned or not. -/
structure Sound (c : Controller E H) : Prop where
  outline : c.outline.Sound
  gated : c.session.Gated

theorem sound_new (engine : E.State) (settings : RenderSettings) :
    (new engine settings : Controller E H).Sound :=
  ⟨Outline.sound_new settings.startPanic?, Session.gated_new engine⟩

theorem settled_new (engine : E.State) (settings : RenderSettings) :
    ¬(new engine settings : Controller E H).outline.Stranded :=
  (Outline.idle_new settings.startPanic?).not_stranded

/-- A step that is mirrored ends as the machine's step does, under some plan. -/
theorem Sound.mirrored {α : Type} (sound : c.Sound) {x : Control E H α}
    {y : Plan → Draft E.Surface α} (mirrors : ∀ plan, Mirrors plan x (y plan)) :
    ∃ plan, y plan c.outline = withState Controller.outline (x c) ∧ (stateOf (x c)).session.Gated :=
  ⟨_, (mirrors _).agrees c sound.gated (Plan.ofHistory_explains _)⟩

theorem Sound.mirrored_call (sound : c.Sound) (k : Conditions) (call : HostCall E.Surface H) :
    ∃ plan, call.draft plan k.startable c.outline = withState Controller.outline (call.perform k c) ∧
      (stateOf (call.perform k c)).session.Gated :=
  sound.mirrored fun _ => Mirrors.call k call

theorem Sound.called (sound : c.Sound) (k : Conditions) (call : HostCall E.Surface H) :
    c.outline.After call.brings (c.isOpen = true ∧ call.events c.pointers ≠ [])
        (withState Controller.outline (call.perform k c)) ∧
      (stateOf (call.perform k c)).Sound := by
  obtain ⟨plan, same, gated⟩ := sound.mirrored_call k call
  have after := Outline.call_after sound.outline plan k.startable call
  rw [same] at after
  refine ⟨after, ?_, gated⟩
  have left := after.sound
  rwa [stateOf_withState] at left

/-- What a step leaves that a call is made of. -/
theorem Sound.reached {α : Type} (sound : c.Sound) (k : Conditions) (call : HostCall E.Surface H)
    {x : Control E H α} {answer : α → Answer}
    (performs : call.perform k = (do return answer (← x))) :
    (stateOf (x c)).Sound ∧
      ∃ plan, (stateOf (x c)).outline = stateOf (call.draft plan k.startable c.outline) := by
  have same : stateOf (call.perform k c) = stateOf (x c) := by
    rw [performs, stateOf_return]
  obtain ⟨plan, drafted, -⟩ := sound.mirrored_call k call
  refine ⟨same ▸ (sound.called k call).2, plan, ?_⟩
  rw [drafted, stateOf_withState, same]

theorem Sound.turned (sound : c.Sound) (turn : Turn E.Surface H) : (c.turned turn).Sound := by
  cases turn with
  | called k call => exact (sound.called k call).2
  | worked steps =>
      refine ⟨?_, (Session.Unmoved.steps steps c.session).gated sound.gated⟩
      rw [turned_worked, outline_rested]
      exact sound.outline

theorem Sound.run (sound : c.Sound) (turns : List (Turn E.Surface H)) : (c.run turns).Sound := by
  induction turns generalizing c with
  | nil => exact sound
  | cons turn later ih => exact ih (sound.turned turn)

/-- A call that returns does not strand the controller. -/
theorem Sound.returned (sound : c.Sound) (settled : ¬c.outline.Stranded) {k : Conditions}
    {call : HostCall E.Surface H} {answer : Answer} {d : Controller E H}
    (returned : call.perform k c = .ok answer d) : d.Sound ∧ ¬d.outline.Stranded := by
  obtain ⟨after, left⟩ := sound.called k call
  rw [returned] at after left
  exact ⟨left, fun stranded => settled (after.strands stranded)⟩

/-- Without a panic no call strands the controller. -/
theorem Sound.settled_run (sound : c.Sound) (settled : ¬c.outline.Stranded)
    (turns : List (Turn E.Surface H)) (returned : ∀ r ∈ c.transcript turns, Returns r) :
    ¬(c.run turns).outline.Stranded := by
  induction turns generalizing c with
  | nil => exact settled
  | cons turn later ih =>
      cases turn with
      | called k call =>
          obtain ⟨first, rest⟩ := List.forall_mem_cons.mp returned
          refine ih (sound.turned _) ?_ rest
          change ¬(stateOf (call.perform k c)).outline.Stranded
          cases h : call.perform k c with
          | ok answer d => exact (sound.returned settled h).2
          | error panic d =>
              rw [h] at first
              exact first.elim
      | worked steps =>
          refine ih (sound.turned _) ?_ returned
          rwa [turned_worked, outline_rested]

/-- Induction along a run in which every call returns. -/
theorem Sound.induction_run {P : Controller E H → List (Turn E.Surface H) → Prop}
    (nil : ∀ c, P c [])
    (called : ∀ (c d : Controller E H) k call answer later, c.Sound → ¬c.outline.Stranded →
      HostCall.perform k call c = .ok answer d → P d later → P c (.called k call :: later))
    (worked : ∀ (c : Controller E H) steps later, P (c.rested steps) later →
      P c (.worked steps :: later))
    (sound : c.Sound) (settled : ¬c.outline.Stranded) (turns : List (Turn E.Surface H))
    (returned : ∀ r ∈ c.transcript turns, Returns r) : P c turns := by
  induction turns generalizing c with
  | nil => exact nil c
  | cons turn later ih =>
      cases turn with
      | called k call =>
          obtain ⟨first, rest⟩ := List.forall_mem_cons.mp returned
          cases h : call.perform k c with
          | ok answer d =>
              rw [h] at rest
              obtain ⟨left, calm⟩ := sound.returned settled h
              exact called c d k call answer later sound settled h (ih left calm rest)
          | error panic d =>
              rw [h] at first
              exact first.elim
      | worked steps =>
          refine worked c steps later (ih (sound.turned (.worked steps)) ?_ returned)
          rwa [outline_rested]

end Controller
end SurfaceGate
