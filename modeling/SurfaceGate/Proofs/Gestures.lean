import SurfaceGate.Engine.Scripted
import SurfaceGate.Proofs.Delivery
import SurfaceGate.Proofs.Exclusion
import SurfaceGate.Proofs.Outline.Stranding

/-!
What becomes of the pointers when a surface is lost.

A surface that goes takes its pointers with it. One that is given up for another keeps them down, be the
other one adopted or not. So a gesture is over at the end of its cycle only if the surface went; behind an
adoption that failed it is carried into the next cycle, whose engine may hear of its end.
-/

namespace SurfaceGate

variable {S H : Type}

theorem HostCall.retires_iff {call : HostCall S H} {answer : Answer} :
    call.retires answer ↔
      call.dismantles = true ∨ (call.brings = true ∧ answer ≠ .result (.ok ())) := by
  cases call with
  | reported report => cases report <;> simp [retires, dismantles, brings]
  | opened _ | focused _ _ | appeared | sized _ _ _ | vanished | ended | motion _ | key _ | discarded =>
      simp [retires, dismantles, brings]

theorem HostCall.kept_of_brings {call : HostCall S H} (brings : call.brings = true) :
    call.dismantles = false ∧ ∀ before, call.pointers before = before := by
  obtain ⟨size, surface, assets, rfl | rfl⟩ := sized_of_brings brings
  · exact ⟨rfl, fun _ => rfl⟩
  · exact ⟨rfl, fun _ => rfl⟩

theorem HostCall.draft_of_brings {call : HostCall S H} (brings : call.brings = true) (plan : Plan)
    (startable : Bool) : ∃ size surface,
      call.draft plan startable = (do return .result (← Draft.adopt plan startable size surface)) := by
  obtain ⟨size, surface, assets, rfl | rfl⟩ := sized_of_brings brings
  · exact ⟨size, surface, rfl⟩
  · exact ⟨size, surface, rfl⟩

namespace Outline

variable {o p : Outline S} {startable : Bool} {size : Extent} {surface : S}

theorem Came.live (came : Came o startable size surface (.ok ()) p) : Live p := by
  obtain ⟨course, answer, took⟩ := came
  cases course with
  | up => exact (took.up rfl).2
  | unprepared _ | ungiven _ | unstarted => cases answer

/-- Only a call that retires the cycle takes the surface from a live outline. -/
theorem Live.ready_of_kept (live : Live o) (sound : Sound o) {plan : Plan} {call : HostCall S H}
    {answer : Answer} (returned : call.draft plan startable o = .ok answer p)
    (kept : ¬call.retires answer) : p.stage = .ready := by
  rw [HostCall.retires_iff, not_or] at kept
  cases brings : call.brings with
  | true =>
      obtain ⟨size, surface, adopts⟩ := HostCall.draft_of_brings brings plan startable
      rw [adopts] at returned
      obtain ⟨result, adopted, rfl⟩ := exists_of_return_ok returned
      obtain rfl : result = .ok () := by
        have same : Answer.result result = .result (.ok ()) := Classical.not_not.mp fun other =>
          kept.2 ⟨brings, other⟩
        exact Answer.result.inj same
      have came := sound.adopt (live.lasts sound) live.not_stranded plan startable size surface
      rw [adopted] at came
      exact (Came.live came).stage
  | false =>
      have stays := stays_call plan startable brings (Bool.eq_false_iff.mpr kept.1) (o := o)
      rw [returned] at stays
      exact stays.stage.trans live.stage

end Outline

namespace Controller

variable {E : Engine} {c d : Controller E H} {k : Conditions} {call : HostCall E.Surface H} {answer : Answer}

theorem Sound.idle_iff_retires (sound : c.Sound) (ready : c.stage = .ready)
    (returned : call.perform k c = .ok answer d) : d.stage = .idle ↔ call.retires answer := by
  have live := sound.outline.live ready
  obtain ⟨plan, same, -⟩ := sound.mirrored_call k call
  rw [returned] at same
  obtain ⟨left, settled⟩ := sound.returned live.not_stranded returned
  constructor
  · exact fun idle => Classical.byContradiction fun kept =>
      nomatch idle.symm.trans (live.ready_of_kept sound.outline same kept)
  · intro retires
    have down := Outline.down_of_retires sound.outline same retires
    exact (left.outline.stands.resolve_right fun others => others.elim down settled).stage

/-- What a ready surface leaves of the pointers when it is lost or replaced: they are forgotten if it
goes, and stay as they are if another one comes, adopted or not. -/
theorem run_forgets (engine : E.State) (settings : RenderSettings) (turns : List (Turn E.Surface H))
    (ready : ((new engine settings : Controller E H).run turns).stage = .ready)
    (returned : call.perform k ((new engine settings : Controller E H).run turns) = .ok answer d) :
    let c := (new engine settings : Controller E H).run turns
    (d.stage = .idle ↔ call.retires answer) ∧
      (d.stage = .idle → (d.pointers = .empty ↔ call.brings = false ∨ c.pointers = .empty)) ∧
      (call.brings = true → d.pointers = c.pointers) := by
  intro c
  have sound : c.Sound := (sound_new engine settings).run turns
  have goes := sound.idle_iff_retires ready returned
  have heard : d.pointers = if call.dismantles then .empty else call.pointers c.pointers := by
    have settled := (sound.outline.live ready).not_stranded
    have heard := congrArg Intake.pointers (sound.intake_heard settled returned)
    rwa [decide_eq_true ready] at heard
  have brought (brings : call.brings = true) : d.pointers = c.pointers := by
    obtain ⟨kept, same⟩ := HostCall.kept_of_brings brings
    rw [heard, kept, same]
    rfl
  refine ⟨goes, fun idle => ?_, brought⟩
  cases brings : call.brings with
  | true => simp [brought brings]
  | false =>
      have dismantles := (HostCall.retires_iff.mp (goes.mp idle)).resolve_right (by simp [brings])
      simp [heard, dismantles]

/-- An engine that fails at its second preparation. -/
def unwilling : Controller Script.engine Unit :=
  new ⟨none, [.ok, .failed (.of "lost")], [], [], [], .ok, none⟩ .default

def comes (surface : Nat) : Turn Nat Unit :=
  .called .calm (.sized ⟨800, 600⟩ surface (.ofRead fun path => .error (.of path)))

/-- A pointer goes down, or all are cancelled. -/
def pressed (action : Int) : Turn Nat Unit :=
  .called .calm (.motion ⟨action, [⟨7, ⟨⟨0⟩, ⟨0⟩⟩⟩]⟩)

theorem run_forgets_vanished :
    let c := unwilling.run [comes 1, pressed 0]
    c.pointers ≠ .empty ∧ ∃ answer d, HostCall.perform .calm .vanished c = .ok answer d ∧
      d.stage = .idle ∧ d.pointers = .empty := by
  intro c
  have ready : c.stage = .ready := by decide +kernel
  have returns : Returns (HostCall.perform .calm .vanished c) := by decide +kernel
  refine ⟨by decide +kernel, ?_⟩
  cases returned : HostCall.perform .calm .vanished c with
  | ok answer d =>
      obtain ⟨goes, forgets, -⟩ := run_forgets _ _ _ ready returned
      have idle := goes.mpr trivial
      exact ⟨answer, d, rfl, idle, (forgets idle).mpr (.inl rfl)⟩
  | error panic d =>
      rw [returned] at returns
      exact returns.elim

/-- The surface is lost under a pointer that stays down. The engine, which took another one, hears that it
is lifted. -/
theorem run_carries_lost :
    let left := unwilling.run [comes 1, pressed 0]
    let lost := left.run [comes 2]
    let later := lost.run [comes 3, pressed 3]
    left.stage = .ready ∧ (∀ r ∈ left.transcript [comes 2], Returns r) ∧ lost.stage = .idle ∧
      lost.pointers ≠ .empty ∧ later.stage = .ready ∧
      later.inputs = left.inputs ++ [.touch .up 7 ⟨⟨0⟩, ⟨0⟩⟩] := by
  decide +kernel

end Controller
end SurfaceGate
