import SurfaceGate.Proofs.Agreement
import SurfaceGate.Proofs.Finality
import SurfaceGate.Proofs.Invariant

/-!
A controller whose engine never panics.

Its calls return. The surface that goes and the end of the activity leave nothing of a cycle, a surface that
comes leaves a new cycle or nothing, and input leaves the cycle as it is. What the engine keeps of itself
holds behind each of them.
-/

namespace SurfaceGate

variable {E : Engine} {H α : Type}

/-- An invariant under which no call of the engine panics, and settings under which no thread is refused its
name. -/
structure Session.Calm (settings : RenderSettings) (fits : Extent → Prop) (I : Session E H → Prop) : Prop
    extends Session.Upheld fits I where
  returned : ∀ {s : Session E H}, I s → ∀ record ∈ s.journal.calls, record.outcome.Returned
  named : ∀ cycle, settings.startPanic? cycle = none

namespace Outline

variable {S : Type} {o p : Outline S}

theorem Sound.idle (sound : Sound o) (down : ¬Live o) (settled : ¬Stranded o) : Idle o :=
  sound.stands.resolve_right (not_or_intro down settled)

/-- Events change what is known of the events. -/
theorem exists_foldl_told (events : List Input.Event) (o : Outline S) :
    ∃ dropped history, events.foldl told o = { o with dropped, history } := by
  induction events generalizing o with
  | nil => exact ⟨o.dropped, o.history, rfl⟩
  | cons event rest ih =>
      have first : ∃ dropped history, o.told event = { o with dropped, history } := by
        simp only [told]
        split
        · exact ⟨o.dropped, _, rfl⟩
        · exact ⟨_, o.history, rfl⟩
      obtain ⟨dropped, history, one⟩ := first
      rw [List.foldl_cons, one]
      exact ih _

end Outline

namespace Controller

variable {c d e : Controller E H}

/-- A controller between two calls, all of which returned. -/
structure Smooth (settings : RenderSettings) (I : Session E H → Prop) (c : Controller E H) : Prop where
  sound : c.Sound
  settled : c.stage = .idle ∨ c.stage = .ready
  under : c.Under settings I

/-- The cycle is the same, and so is what is left of the activity. -/
structure Still (c d : Controller E H) : Prop where
  stage : d.stage = c.stage
  surface : d.surface = c.surface
  size : d.size = c.size
  cycles : d.cycles = c.cycles
  ended : d.ended = c.ended

instance : Spans (Still : Controller E H → Controller E H → Prop) where
  refl _ := ⟨rfl, rfl, rfl, rfl, rfl⟩
  trans first second := ⟨second.stage.trans first.stage, second.surface.trans first.surface,
    second.size.trans first.size, second.cycles.trans first.cycles, second.ended.trans first.ended⟩

variable {settings : RenderSettings} {I : Session E H → Prop}

theorem Smooth.not_stranded (smooth : c.Smooth settings I) : ¬c.outline.Stranded :=
  fun stranded => smooth.settled.elim stranded.not_idle stranded.not_ready

theorem Down.not_ready (down : c.Down) : c.stage ≠ .ready := by
  rw [down.stage]
  exact Stage.noConfusion

theorem Smooth.down (smooth : c.Smooth settings I) (down : c.stage ≠ .ready) : c.Down :=
  down_of_idle (smooth.sound.outline.idle (fun live => down live.stage) smooth.not_stranded)

theorem Smooth.down_of_ended (smooth : c.Smooth settings I) (ended : c.ended = true) : c.Down := by
  refine smooth.down fun ready => ?_
  have live := smooth.sound.outline.live ready
  exact nomatch ended.symm.trans (live.lasts smooth.sound.outline)

theorem Smooth.agrees (smooth : c.Smooth settings I) : Agrees c :=
  agrees_of_sound smooth.sound.outline smooth.not_stranded

theorem Smooth.write (smooth : c.Smooth settings I) {entry : Entry E H} (unmarked : entry.mark? = none)
    (uncalled : entry.call? = none) {J : Session E H → Prop} (holds : J (c.session.write entry)) :
    Smooth settings J { c with session := c.session.write entry } := by
  have still : c.session.Unmoved (c.session.write entry) := by
    refine .write unmarked ?_
    rintro record rfl
    cases uncalled
  have same : ({ c with session := c.session.write entry } : Controller E H).outline = c.outline := by
    simp only [outline, still.phase, still.bound, still.ready, still.worker, still.history]
  exact ⟨⟨same ▸ smooth.sound.outline, still.gated smooth.sound.gated⟩, smooth.settled,
    smooth.under.1, holds⟩

theorem Smooth.rested (smooth : c.Smooth settings I) {fits : Extent → Prop} (upheld : Session.Upheld fits I)
    (steps : Nat) : (c.rested steps).Smooth settings I :=
  ⟨smooth.sound.turned (.worked steps), smooth.settled, smooth.under.1, upheld.steps steps smooth.under.2⟩

/-- What only tells of events leaves the cycle alone. -/
theorem passes_of_told (k : Conditions) (call : HostCall E.Surface H) {x : Control E H α} {answer : α → Answer}
    (performs : call.perform k = (do return answer (← x))) {y : Draft E.Surface α}
    (mirrors : ∀ plan, Mirrors plan x y)
    (drafted : ∀ o : Outline E.Surface, ∃ a pointers, ∃ events : List Input.Event,
      y o = .ok a (events.foldl Outline.told { o with pointers }))
    (kept : Preserves (Under settings I) x) : Passes (Smooth settings I) Still x := by
  intro c smooth
  obtain ⟨plan, same, -⟩ := smooth.sound.mirrored (y := fun _ => y) mirrors
  obtain ⟨a, pointers, events, told⟩ := drafted c.outline
  obtain ⟨dropped, history, left⟩ := Outline.exists_foldl_told events { c.outline with pointers }
  rw [told, left] at same
  obtain ⟨d, returned, outline⟩ := exists_of_withState_ok same.symm
  have sound := (smooth.sound.reached k call performs).1
  have under := kept c smooth.under
  rw [returned] at sound under
  have still : c.Still d := ⟨congrArg Outline.stage outline, congrArg Outline.surface outline,
    congrArg Outline.size outline, congrArg Outline.cycles outline, congrArg Outline.ended outline⟩
  exact ⟨a, d, returned, ⟨sound, still.stage.symm ▸ smooth.settled, under⟩, still⟩

end Controller

namespace Session.Calm

open Controller

variable {settings : RenderSettings} {fits : Extent → Prop} {I : Session E H → Prop}
  (calm : Calm settings fits I) {c : Controller E H}
include calm

/-- Where the machine on outlines returns unless the engine panics, a call of the controller returns. -/
theorem returns (smooth : c.Smooth settings I) (k : Conditions) (call : HostCall E.Surface H)
    (answer : α → Answer) {x : Control E H α} (performs : call.perform k = (do return answer (← x)))
    {y : Plan → Draft E.Surface α} (mirrors : ∀ plan, Mirrors plan x (y plan))
    {Q : α → Outline E.Surface → Prop} (ends : ∀ plan, Outline.Ends c.outline Q (y plan c.outline))
    (kept : Preserves (Under settings I) x) :
    ∃ a d, x c = .ok a d ∧ Q a d.outline ∧ d.Sound ∧ d.Under settings I ∧
      d.ended = (c.ended || call.closes) := by
  obtain ⟨plan, same, gated⟩ := smooth.sound.mirrored mirrors
  have ends := ends plan
  have sound := (smooth.sound.reached k call performs).1
  have under := kept c smooth.under
  rw [same] at ends
  cases h : x c with
  | ok a d =>
      rw [h] at ends sound under
      have told : call.perform k c = .ok (answer a) d := performs ▸ bind_of_ok h
      refine ⟨a, d, rfl, ends, sound, under, ?_⟩
      exact congrArg Outline.Aside.ended (smooth.sound.heard smooth.not_stranded told)
  | error panic d =>
      rw [h] at ends under gated
      have torn : Outline.Torn c.outline panic d.outline := ends
      rcases torn.cause with ⟨call, earlier, calls, -⟩ | starts
      · have made : (call, .panicked panic) ∈ d.hostCalls := by
          have history : d.hostCalls = d.outline.history.calls := gated.owned.hostCalls_eq
          rw [history, calls]
          exact List.mem_cons_self
        obtain ⟨record, there, same⟩ := List.mem_map.mp made
        have outcome := congrArg Prod.snd same
        exact absurd outcome (calm.returned under.2 record (List.mem_filter.mp there).1 panic)
      · have none_panics := calm.named d.cycles
        rw [← under.1] at none_panics
        exact nomatch starts.symm.trans none_panics

theorem note {entry : Entry E H} (unmarked : entry.mark? = none) (plain : entry.Plain) :
    Passes (Smooth settings I) Still (Control.onSession (Act.note entry) : Control E H Unit) :=
  fun _ smooth => ⟨(), _, rfl, smooth.write unmarked plain.uncalled (calm.write plain smooth.under.2),
    rfl, rfl, rfl, rfl, rfl⟩

theorem log {level : Log.Level} {text : String} (plain : (.line .host ⟨level, text⟩ : Entry E H).Plain) :
    Passes (Smooth settings I) Still (Control.log level text : Control E H Unit) :=
  calm.note rfl plain

/-- When the surface goes nothing of a cycle is left. -/
theorem release (k : Conditions) :
    Passes (Smooth settings I) (fun c d => d.Down ∧ d.ended = c.ended)
      (Controller.release k : Control E H Unit) := by
  intro c smooth
  obtain ⟨_, d, returned, ⟨steady, down⟩, sound, under, ended⟩ := calm.returns smooth k .vanished
    (fun _ => .done) rfl (fun _ => Mirrors.release k)
    (fun plan => Outline.release_ends smooth.sound.outline plan) (calm.toUpheld.attends.release k)
  have idle := sound.outline.idle down (smooth.not_stranded ∘ steady.strands)
  exact ⟨(), d, returned, ⟨sound, .inl idle.stage, under⟩, down_of_idle idle, ended.trans (Bool.or_false _)⟩

/-- The end of the activity succeeds. -/
theorem closeActivity (smooth : c.Smooth settings I) (k : Conditions) :
    ∃ d, Controller.closeActivity k c = .ok (.ok ()) d ∧ d.Smooth settings I ∧ d.Down ∧ d.ended = true := by
  obtain ⟨answer, d, returned, ⟨steady, down⟩, sound, under, -⟩ := calm.returns smooth k .ended
    .result rfl (fun _ => Mirrors.closeActivity k)
    (fun plan => Outline.closeActivity_ends smooth.sound.outline plan) (calm.toUpheld.closeActivity k)
  have ends := smooth.sound.endsOrPanics smooth.not_stranded k
  rw [returned] at ends
  obtain ⟨rfl, ends⟩ := ends
  have idle := sound.outline.idle down (smooth.not_stranded ∘ steady.strands)
  exact ⟨d, returned, ⟨sound, .inl idle.stage, under⟩, down_of_idle idle, ends.isOver.ended⟩

/-- A surface that comes before the end takes one of the courses. -/
theorem adopt (changes : ∀ {s : Session E H} {entry : Entry E H}, entry.Changes → I s → I (s.write entry))
    (smooth : c.Smooth settings I) (lasts : c.ended = false) (k : Conditions) {size : Extent}
    (fit : fits size) (surface : E.Surface) (assets : AssetReader) :
    ∃ (course : Course) (d : Controller E H),
      Controller.adopt k size surface assets c = .ok course.answer d ∧ d.Smooth settings I ∧
        c.Adopts k.startable size surface course d := by
  obtain ⟨_, d, returned, ⟨course, rfl, took⟩, sound, under, -⟩ := calm.returns smooth k
    (.sized size surface assets) .result rfl (fun _ => Mirrors.adopt k size surface assets)
    (fun plan => smooth.sound.outline.adopt lasts smooth.not_stranded plan k.startable size surface)
    (calm.toUpheld.adopt changes k fit surface assets)
  refine ⟨course, d, returned, ⟨sound, ?_, under⟩, smooth.sound.adopts sound.gated took⟩
  by_cases up : course = .up
  · exact .inr (took.up up).2.stage
  · exact .inl (took.down up).1.stage

theorem motion (k : Conditions) (batch : Input.Motion) :
    Passes (Smooth settings I) Still (Controller.motion k batch : Control E H Nat) :=
  passes_of_told k (.motion batch) rfl (fun _ => Mirrors.motion k batch)
    (fun o => ⟨_, _, _, Outline.motion_eq batch o⟩) (calm.toUpheld.attends.motion k batch)

theorem key (k : Conditions) (pressed : Input.Key) :
    Passes (Smooth settings I) Still (Controller.key k pressed : Control E H Bool) :=
  passes_of_told k (.key pressed) rfl (fun _ => Mirrors.key k pressed)
    (fun o => ⟨_, o.pointers, _, Outline.key_eq pressed o⟩) (calm.toUpheld.attends.key k pressed)

end Session.Calm
end SurfaceGate
