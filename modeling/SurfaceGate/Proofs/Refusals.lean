import SurfaceGate.Proofs.Accusations
import SurfaceGate.Proofs.Finality

/-!
Violations of the order are found before anything is done.

A request that the gate refuses leaves the session as it was, and a call that the controller refuses leaves
nothing behind but lines in the log. Behind a panic calls are refused for many reasons; without one the only
call that ever is refused brings a surface behind the end of the activity, and no other check of the order
finds anything, be it that its finding would be answered or only noted.
-/

namespace SurfaceGate

variable {E : Engine} {H α β : Type}

namespace Controller.On

open Control

variable {c d : Controller E H} {answer : Except GateError Unit}

/-- A cycle that fails is abandoned behind a closed gate. -/
theorem abandoned (fair : c.On (Session.Fair true)) {k : Conditions} {error : GateError}
    (returned : (do
      Control.log .error error.message
      abandonCycle k
      return .error error : Control E H (Except GateError Unit)) c = .ok answer d)
    (inOrder : violation? answer = none) : d.On (Session.Fair true) := by
  obtain ⟨_, c₁, logged, returned⟩ := exists_of_bind_ok returned
  obtain ⟨_, c₂, abandoned, returned⟩ := exists_of_bind_ok returned
  cases returned
  have told := (Fairly.log (Entry.not_accuses_of_error inOrder)).left fair logged
  exact (Fairly.dismantles.abandonCycle k).left told abandoned

theorem startRendering (fair : c.On (Session.Fair true)) {k : Conditions}
    (returned : startRendering k c = .ok answer d) (inOrder : violation? answer = none) :
    d.On (Session.Fair false) := by
  obtain ⟨allowed, c₁, asked, returned⟩ := exists_of_bind_ok returned
  have opened : c₁.On (Session.Fair false) :=
    (Fairly.onSession fun s fair => fair.handled (Handles.allow .host s) fun _ => rfl).left fair.weaken asked
  cases allowed with
  | error error =>
      obtain ⟨t, refused, -⟩ := exists_of_onSession_ok asked
      rw [Gate.allow_eq] at refused
      split at refused
      · cases (EStateM.Result.ok.inj refused).1
      · cases (EStateM.Result.ok.inj refused).1
        obtain ⟨_, c₂, _, returned⟩ := exists_of_bind_ok returned
        cases returned
        cases inOrder
  | ok _ =>
      obtain ⟨_, c₂, counted, returned⟩ := exists_of_bind_ok returned
      replace opened : c₂.On (Session.Fair false) := by
        cases counted
        exact opened
      replace returned := (get_bind _ c₂).symm.trans returned
      obtain ⟨started, c₃, ran, returned⟩ := exists_of_bind_ok returned
      replace opened := (Fairly.onSession ((Session.Fair.outlasts _).startWorker _ _ _ _ _)).left opened ran
      cases started with
      | error error =>
          obtain ⟨_, c₄, logged, returned⟩ := exists_of_bind_ok returned
          obtain ⟨_, c₅, closed, returned⟩ := exists_of_bind_ok returned
          obtain ⟨_, c₆, abandoned, returned⟩ := exists_of_bind_ok returned
          cases returned
          have told := (Fairly.log (Entry.not_accuses_of_error inOrder)).left opened logged
          obtain ⟨_, same, shut⟩ := Fairly.closeGate k told
          cases same.symm.trans closed
          exact ((Fairly.dismantles.abandonCycle k).left shut abandoned).weaken
      | ok _ =>
          obtain ⟨_, c₄, moved, returned⟩ := exists_of_bind_ok returned
          cases returned
          exact (Fairly.moves.moveTo _).left opened moved

theorem beginCycle (fair : c.On (Session.Fair true)) {k : Conditions} {size : Extent}
    {surface : E.Surface} {assets : AssetReader}
    (returned : beginCycle k size surface assets c = .ok answer d) (inOrder : violation? answer = none) :
    d.On (Session.Fair false) := by
  have asks {request : Request E.Surface} {x : Act E H (Except GateError Unit)} {c₁ c₂ : Controller E H}
      {result : Except GateError Unit} (handles : ∀ s, Handles .host s request (stateOf (x s)))
      (other : request ≠ .allow) (fair : c₁.On (Session.Fair true))
      (asked : onSession x c₁ = .ok result c₂) : c₂.On (Session.Fair true) :=
    (Fairly.onSession fun s fair => fair.handled (handles s) fun same => absurd same other).left fair asked
  obtain ⟨_, c₁, moved, returned⟩ := exists_of_bind_ok returned
  obtain ⟨prepared, c₂, asked, returned⟩ := exists_of_bind_ok returned
  have fitted := asks (Handles.prepare .host assets size) nofun ((Fairly.moves.moveTo _).left fair moved) asked
  cases prepared with
  | error error => exact (fitted.abandoned returned inOrder).weaken
  | ok _ =>
      obtain ⟨_, c₃, moved, returned⟩ := exists_of_bind_ok returned
      obtain ⟨given, c₄, asked, returned⟩ := exists_of_bind_ok returned
      have bound := asks (Handles.give .host surface) nofun ((Fairly.moves.moveTo _).left fitted moved) asked
      cases given with
      | error error => exact (bound.abandoned returned inOrder).weaken
      | ok _ =>
          obtain ⟨_, c₅, held, returned⟩ := exists_of_bind_ok returned
          cases held
          have held : On (Session.Fair true) { c₄ with surface := some surface, size := some size } := bound
          exact held.startRendering returned inOrder

theorem finishEngine (fair : c.On (Session.Fair false))
    (returned : finishEngine c = .ok answer d) (inOrder : violation? answer = none) :
    d.On (Session.Fair false) := by
  replace returned := (get_bind _ c).symm.trans returned
  split at returned
  · cases returned
    cases inOrder
  · obtain ⟨finished, c₁, asked, returned⟩ := exists_of_bind_ok returned
    have finishes : Fairly false (onSession (Gate.finish .host) : Control E H _) :=
      Fairly.onSession fun s fair => fair.handled (Handles.finish .host s) nofun
    have left := finishes.left fair asked
    have ends : Fairly false (do
        modify ({ · with ended := true })
        return .ok () : Control E H (Except GateError Unit)) :=
      .bind (Fairly.set fun _ => rfl) fun _ => .pure _
    cases finished with
    | error error =>
        cases returned
        exact left
    | ok called =>
        cases called with
        | false => exact ends.left left returned
        | true =>
            have told : Fairly false (do
                Control.log .info s!"engine shut down after {(← get).cycles} bind cycles"
                modify ({ · with ended := true })
                return .ok () : Control E H (Except GateError Unit)) :=
              .read fun _ => .bind (Fairly.remark _ nofun) fun _ => ends
            exact told.left left returned

theorem adopt (fair : c.On (Session.Fair false)) (idle : c.stage = .idle → c.isOpen = false)
    {k : Conditions} {size : Extent} {surface : E.Surface} {assets : AssetReader}
    (returned : adopt k size surface assets c = .ok answer d) (inOrder : violation? answer = none) :
    d.On (Session.Fair false) := by
  replace returned := (get_bind _ c).symm.trans returned
  -- As long as the gate has to be closed for the cycle to begin at once, it is.
  have start : c.On (Session.Fair (decide (c.stage = .idle))) :=
    ⟨fair.spotless, fun down => idle (of_decide_eq_true down)⟩
  split at returned
  · cases returned
    cases inOrder
  · obtain ⟨c₁, warned, returned⟩ := exists_of_perhaps_ok returned
    have told : c₁.On (Session.Fair (decide (c.stage = .idle))) := by
      rcases warned with logged | rfl
      · exact (Fairly.remark _ (by decide)).left start logged
      · exact start
    obtain ⟨_, c₂, logged, returned⟩ := exists_of_bind_ok returned
    replace told := (Fairly.remark _ (by decide)).left told logged
    cases stage : c.stage with
    | idle =>
        rw [stage] at told returned
        exact beginCycle told returned inOrder
    | ready =>
        rw [stage] at returned
        obtain ⟨_, c₃, logged, returned⟩ := exists_of_bind_ok returned
        obtain ⟨_, c₄, closed, returned⟩ := exists_of_bind_ok returned
        obtain ⟨_, c₅, joined, returned⟩ := exists_of_bind_ok returned
        obtain ⟨_, same, shut⟩ := Fairly.closeGate k ((Fairly.remark _ (by decide)).left told logged)
        cases same.symm.trans closed
        exact beginCycle ((Fairly.moves.endWorker k).left shut joined) returned inOrder
    | preparing | binding | dismantling =>
        rw [stage] at returned
        cases returned
        cases inOrder

theorem closeActivity (fair : c.On (Session.Fair false)) {k : Conditions}
    (returned : closeActivity k c = .ok answer d) (inOrder : violation? answer = none) :
    d.On (Session.Fair false) := by
  obtain ⟨_, c₁, logged, returned⟩ := exists_of_bind_ok returned
  have told := (Fairly.remark _ (by decide)).left fair logged
  replace returned := (get_bind _ c₁).symm.trans returned
  split at returned
  · have ends : Fairly false (do
        Control.log .debug "activity already destroyed"
        return .ok () : Control E H (Except GateError Unit)) :=
      .bind (Fairly.remark _ nofun) fun _ => .pure _
    exact ends.left told returned
  · split at returned
    · obtain ⟨_, c₂, dismantled, returned⟩ := exists_of_bind_ok returned
      exact finishEngine ((Fairly.dismantles.dismantle k).left told dismantled) returned inOrder
    · exact finishEngine told returned inOrder

theorem report (fair : c.On (Session.Fair false)) (idle : c.stage = .idle → c.isOpen = false)
    {k : Conditions} {told : Report E.Surface} (returned : Controller.report k told c = .ok answer d)
    (inOrder : violation? answer = none) : d.On (Session.Fair false) := by
  have answered {α : Type} {x : Control E H α} (fairly : Fairly false x)
      (returned : (do let _ ← x; return .ok () : Control E H (Except GateError Unit)) c = .ok answer d) :
      d.On (Session.Fair false) :=
    Preserves.left (.bind fairly fun _ => .pure _) fair returned
  cases told with
  | appeared => exact answered Fairly.serves.expect returned
  | sized size surface assets => exact adopt fair idle returned inOrder
  | vanished => exact answered (Fairly.serves.release k) returned
  | ended => exact closeActivity fair returned inOrder
  | motion batch => exact answered (Fairly.serves.motion k batch) returned
  | key pressed => exact answered (Fairly.serves.key k pressed) returned

/-- A call that returns accuses nobody, unless it answers with the violation. -/
theorem called (fair : c.On (Session.Fair false)) (idle : c.stage = .idle → c.isOpen = false)
    {k : Conditions} {call : HostCall E.Surface H} {answer : Answer}
    (returned : call.perform k c = .ok answer d) (inOrder : answer.violation? = none) :
    d.On (Session.Fair false) := by
  have answered {α : Type} {x : Control E H α} {answers : α → Answer} (fairly : Fairly false x)
      (returned : (do return answers (← x) : Control E H Answer) c = .ok answer d) :
      d.On (Session.Fair false) :=
    Preserves.left (.bind fairly fun _ => .pure _) fair returned
  cases call with
  | opened host => exact answered (Fairly.serves.openActivity host) returned
  | focused host hasFocus =>
      cases hasFocus with
      | false => exact answered (.pure _) returned
      | true => exact answered (Fairly.serves.conduct host.fillScreen) returned
  | appeared => exact answered Fairly.serves.expect returned
  | sized size surface assets =>
      obtain ⟨result, adopted, rfl⟩ := exists_of_return_ok returned
      exact adopt fair idle adopted inOrder
  | vanished => exact answered (Fairly.serves.release k) returned
  | ended =>
      obtain ⟨result, closed, rfl⟩ := exists_of_return_ok returned
      exact closeActivity fair closed inOrder
  | motion batch => exact answered (Fairly.serves.motion k batch) returned
  | key pressed => exact answered (Fairly.serves.key k pressed) returned
  | reported heard =>
      obtain ⟨result, reported, rfl⟩ := exists_of_return_ok returned
      exact report fair idle reported inOrder
  | discarded => exact answered (Fairly.serves.discard k) returned

end Controller.On

def Reply.violation? : Reply → Option Violation
  | .done answered => SurfaceGate.violation? answered
  | .attempted answered => SurfaceGate.violation? answered
  | .finished answered => SurfaceGate.violation? answered
  | .told _ => none

namespace Act

/-- A step that finds nothing wrong. -/
def Complies (x : Act E H (Except GateError α)) : Prop :=
  ∀ s t answer, x s = .ok answer t → violation? answer = none

/-- A step that does nothing if it finds something wrong. -/
def Declines (x : Act E H (Except GateError α)) : Prop :=
  ∀ s t answer violation, x s = .ok answer t → violation? answer = some violation → t = s

namespace Complies

theorem pure {answer : Except GateError α} (inOrder : violation? answer = none) :
    Complies (pure answer : Act E H _) := by
  rintro s t _ ⟨⟩
  exact inOrder

theorem bind {x : Act E H β} {f : β → Act E H (Except GateError α)} (next : ∀ b, Complies (f b)) :
    Complies (x >>= f) := by
  intro s t answer returned
  obtain ⟨b, u, -, last⟩ := exists_of_bind_ok returned
  exact next b u t answer last

theorem branch {p : Prop} [Decidable p] {x y : Act E H (Except GateError α)} (holds : Complies x)
    (fails : Complies y) : Complies (if p then x else y) := by
  split
  · exact holds
  · exact fails

theorem declines {x : Act E H (Except GateError α)} (complies : Complies x) : Declines x := by
  intro s t answer violation returned found
  rw [complies s t answer returned] at found
  cases found

end Complies

namespace Declines

theorem breach (violation : Violation) : Declines (Gate.breach violation : Act E H (Except GateError α)) := by
  rintro s t _ _ ⟨⟩ _
  rfl

theorem look {f : Gate E → Act E H (Except GateError α)} (next : ∀ g, Declines (f g)) :
    Declines (Act.gate >>= f) :=
  fun s => next s.gate s

theorem branch {p : Prop} [Decidable p] {x y : Act E H (Except GateError α)} (holds : Declines x)
    (fails : Declines y) : Declines (if p then x else y) := by
  split
  · exact holds
  · exact fails

theorem prepare (thread : Thread) (assets : AssetReader) (size : Extent) :
    Declines (Gate.prepare thread assets size : Act E H _) := by
  refine look fun g => branch (breach _) (branch (breach _) (Complies.declines (.bind fun answer => ?_)))
  cases answer with
  | error why => exact .pure rfl
  | ok _ => exact .bind fun _ => .pure rfl

theorem give (thread : Thread) (surface : E.Surface) : Declines (Gate.give thread surface : Act E H _) := by
  refine look fun g => branch (breach _) (branch (Complies.declines (.bind fun answer => ?_)) (breach _))
  cases answer with
  | error why => exact .pure rfl
  | ok _ => exact .bind fun _ => .pure rfl

theorem takeBack (thread : Thread) : Declines (Gate.takeBack thread : Act E H _) := by
  refine look fun g => branch (breach _) (Complies.declines (.bind fun _ => .branch ?_ (.pure rfl)))
  refine .bind fun answer => ?_
  cases answer with
  | error why => exact .pure rfl
  | ok _ => exact .pure rfl

theorem allow : Declines (Gate.allow : Act E H _) :=
  look fun _ => branch (Complies.declines (.bind fun _ => .pure rfl)) (breach _)

theorem render (thread : Thread) : Declines (Gate.render thread : Act E H _) := by
  refine look fun g => Complies.declines (.branch (.bind fun answer => ?_) (.pure rfl))
  cases answer with
  | error why => exact .pure rfl
  | ok _ => exact .pure rfl

theorem finish (thread : Thread) : Declines (Gate.finish thread : Act E H _) := by
  refine look fun g => branch (breach _) (Complies.declines (.branch ?_ (.pure rfl)))
  exact .bind fun _ => .bind fun _ => .pure rfl

end Declines
end Act

/-- A request that the gate refuses leaves the session as it was. -/
theorem Request.same_of_violation {request : Request E.Surface} {thread : Thread} {s t : Session E H}
    {reply : Reply} {violation : Violation} (returned : request.perform thread s = .ok reply t)
    (found : reply.violation? = some violation) : t = s := by
  cases request with
  | prepare assets size =>
      obtain ⟨_, answered, rfl⟩ := exists_of_return_ok returned
      exact Act.Declines.prepare thread assets size s t _ _ answered found
  | attach surface =>
      obtain ⟨_, answered, rfl⟩ := exists_of_return_ok returned
      cases surface with
      | none => exact Act.Declines.takeBack thread s t _ _ answered found
      | some surface => exact Act.Declines.give thread surface s t _ _ answered found
  | allow =>
      obtain ⟨_, answered, rfl⟩ := exists_of_return_ok returned
      exact Act.Declines.allow s t _ _ answered found
  | render =>
      obtain ⟨_, answered, rfl⟩ := exists_of_return_ok returned
      exact Act.Declines.render thread s t _ _ answered found
  | finish =>
      obtain ⟨_, answered, rfl⟩ := exists_of_return_ok returned
      exact Act.Declines.finish thread s t _ _ answered found
  | forbid | feed _ =>
      obtain ⟨_, answered, rfl⟩ := exists_of_return_ok returned
      cases found

theorem HostCall.perform_of_brings {call : HostCall E.Surface H} (brings : call.brings = true)
    (k : Conditions) : ∃ size surface assets,
      call.perform k = (do return .result (← Controller.adopt k size surface assets) : Control E H Answer) := by
  obtain ⟨size, surface, assets, rfl | rfl⟩ := sized_of_brings brings
  · exact ⟨size, surface, assets, rfl⟩
  · exact ⟨size, surface, assets, rfl⟩

theorem HostCall.perform_of_closes {call : HostCall E.Surface H} (closes : call.closes = true)
    (k : Conditions) :
    call.perform k = (do return .result (← Controller.closeActivity k) : Control E H Answer) := by
  cases call with
  | ended => rfl
  | reported report =>
      cases report with
      | ended => rfl
      | appeared | sized _ _ _ | vanished | motion _ | key _ => cases closes
  | opened _ | focused _ _ | appeared | sized _ _ _ | vanished | motion _ | key _ | discarded => cases closes

/-- Whoever neither brings a surface nor ends the activity is not refused. -/
theorem HostCall.inOrder_of_neither {call : HostCall E.Surface H} (brings : call.brings = false)
    (closes : call.closes = false) {k : Conditions} {c d : Controller E H} {answer : Answer}
    (returned : call.perform k c = .ok answer d) : answer.violation? = none := by
  cases call with
  | sized _ _ _ => cases brings
  | ended => cases closes
  | reported report =>
      obtain ⟨_, reported, rfl⟩ := exists_of_return_ok returned
      cases report with
      | sized _ _ _ => cases brings
      | ended => cases closes
      | appeared | vanished | motion _ | key _ =>
          obtain ⟨_, _, rfl⟩ := exists_of_return_ok reported
          rfl
  | opened _ | focused _ _ | appeared | vanished | motion _ | key _ | discarded =>
      obtain ⟨_, _, rfl⟩ := exists_of_return_ok returned
      rfl

namespace Controller

variable {c d : Controller E H}

/-- From `c` to `d` the host wrote some lines, and nothing else changed. -/
def Noted (c d : Controller E H) : Prop :=
  ∃ lines : List Log.Line, d = { c with
    session := { c.session with journal := lines.map (.line .host) ++ c.session.journal } }

instance : Spans (Noted : Controller E H → Controller E H → Prop) where
  refl _ := ⟨[], rfl⟩
  trans := by
    rintro c _ _ ⟨first, rfl⟩ ⟨second, rfl⟩
    exact ⟨second ++ first, by simp⟩

namespace Noted

theorem log (level : Log.Level) (text : String) :
    Along Noted (Control.log level text : Control E H Unit) :=
  fun _ => ⟨[⟨level, text⟩], rfl⟩

theorem refuse (violation : Violation) :
    Along Noted (Control.refuse violation : Control E H (Except GateError α)) :=
  .read fun _ => .bind (log _ _) fun _ => .pure _

/-- Amid a cycle no surface is taken. -/
theorem adopt (amid : c.stage ≠ .idle ∧ c.stage ≠ .ready) (k : Conditions) (size : Extent)
    (surface : E.Surface) (assets : AssetReader) :
    c.Noted (stateOf (Controller.adopt k size surface assets c)) := by
  refine congrArg stateOf (get_bind _ c) ▸ ?_
  refine Along.branch (refuse _) (.perhaps (log _ _) (.bind (log _ _) fun _ => ?_)) c
  cases stage : c.stage with
  | idle => exact absurd stage amid.1
  | ready => exact absurd stage amid.2
  | preparing | binding | dismantling => exact refuse _

end Noted

theorem Sound.noted_adopt (sound : c.Sound) {k : Conditions} {size : Extent} {surface : E.Surface}
    {assets : AssetReader} {answer : Except GateError Unit} {violation : Violation}
    (returned : adopt k size surface assets c = .ok answer d)
    (found : violation? answer = some violation) : c.Noted d := by
  cases ended : c.ended with
  | true =>
      rw [adopt_of_ended ended] at returned
      cases returned
      exact ⟨[_], rfl⟩
  | false =>
      by_cases stranded : c.outline.Stranded
      · have noted := Noted.adopt ⟨stranded.not_idle, stranded.not_ready⟩ k size surface assets
        rwa [returned] at noted
      · have adopts := sound.adoptsOrPanics stranded ended k size surface assets
        rw [returned] at adopts
        obtain ⟨course, rfl, -⟩ := adopts
        cases course <;> cases found

/-- The end of the engine is refused before anything is done. -/
theorem noted_finishEngine {answer : Except GateError Unit} {violation : Violation}
    (returned : Control.finishEngine c = .ok answer d) (found : violation? answer = some violation) :
    c.Noted d := by
  replace returned := (get_bind _ c).symm.trans returned
  split at returned
  · cases returned
    exact ⟨[_], rfl⟩
  · obtain ⟨finished, c₁, asked, returned⟩ := exists_of_bind_ok returned
    cases finished with
    | error error =>
        cases returned
        obtain ⟨s, declined, rfl⟩ := exists_of_onSession_ok asked
        cases Act.Declines.finish .host _ _ _ _ declined found
        exact ⟨[], rfl⟩
    | ok called =>
        cases called with
        | false =>
            cases returned
            cases found
        | true =>
            cases returned
            cases found

theorem Sound.noted_closeActivity (sound : c.Sound) {k : Conditions} {answer : Except GateError Unit}
    {violation : Violation} (returned : closeActivity k c = .ok answer d)
    (found : violation? answer = some violation) : c.Noted d := by
  by_cases stranded : c.outline.Stranded
  · obtain ⟨_, c₁, logged, returned⟩ := exists_of_bind_ok returned
    have noted := Noted.log .info "activity destroyed" c
    rw [logged] at noted
    replace returned := (get_bind _ c₁).symm.trans returned
    split at returned
    · cases returned
      cases found
    · have stage : c₁.stage ≠ .ready := by
        cases logged
        exact stranded.not_ready
      rw [if_neg stage] at returned
      exact Spans.trans noted (noted_finishEngine returned found)
  · have ends := sound.endsOrPanics stranded k
    rw [returned] at ends
    obtain ⟨rfl, -⟩ := ends
    cases found

/-- A call that is refused leaves nothing but lines behind. -/
theorem Sound.noted_of_violation (sound : c.Sound) {k : Conditions} {call : HostCall E.Surface H}
    {answer : Answer} {violation : Violation} (returned : call.perform k c = .ok answer d)
    (found : answer.violation? = some violation) : c.Noted d := by
  cases brings : call.brings with
  | true =>
      obtain ⟨size, surface, assets, performs⟩ := HostCall.perform_of_brings brings k
      rw [performs] at returned
      obtain ⟨_, adopted, rfl⟩ := exists_of_return_ok returned
      exact sound.noted_adopt adopted found
  | false =>
      cases closes : call.closes with
      | true =>
          rw [HostCall.perform_of_closes closes] at returned
          obtain ⟨_, closed, rfl⟩ := exists_of_return_ok returned
          exact sound.noted_closeActivity closed found
      | false =>
          rw [HostCall.inOrder_of_neither brings closes returned] at found
          cases found

theorem Sound.adopt_violation_iff (sound : c.Sound) (settled : ¬c.outline.Stranded) {k : Conditions}
    {size : Extent} {surface : E.Surface} {assets : AssetReader} {answer : Except GateError Unit}
    (returned : adopt k size surface assets c = .ok answer d) (violation : Violation) :
    violation? answer = some violation ↔ violation = .adoptAfterEnd ∧ c.ended = true := by
  cases ended : c.ended with
  | true =>
      rw [adopt_of_ended ended] at returned
      cases returned
      simp [violation?, GateError.violation?, eq_comm]
  | false =>
      have adopts := sound.adoptsOrPanics settled ended k size surface assets
      rw [returned] at adopts
      obtain ⟨course, rfl, -⟩ := adopts
      cases course <;> simp [violation?, GateError.violation?, Course.answer]

/-- Without a panic nothing is refused but a surface behind the end of the activity. -/
theorem Sound.violation_iff (sound : c.Sound) (settled : ¬c.outline.Stranded) {k : Conditions}
    {call : HostCall E.Surface H} {answer : Answer} (returned : call.perform k c = .ok answer d)
    (violation : Violation) :
    answer.violation? = some violation ↔
      call.brings = true ∧ violation = .adoptAfterEnd ∧ c.ended = true := by
  cases brings : call.brings with
  | true =>
      obtain ⟨size, surface, assets, performs⟩ := HostCall.perform_of_brings brings k
      rw [performs] at returned
      obtain ⟨_, adopted, rfl⟩ := exists_of_return_ok returned
      exact (sound.adopt_violation_iff settled adopted violation).trans (by simp)
  | false =>
      have inOrder : answer.violation? = none := by
        cases closes : call.closes with
        | true =>
            rw [HostCall.perform_of_closes closes] at returned
            obtain ⟨_, closed, rfl⟩ := exists_of_return_ok returned
            have ends := sound.endsOrPanics settled k
            rw [closed] at ends
            rw [ends.1]
            rfl
        | false => exact HostCall.inOrder_of_neither brings closes returned
      simp [inOrder]

/-- The activity is over, since a call ended it and said so. -/
def Finishes (c : Controller E H) (turns : List (Turn E.Surface H)) : Prop :=
  ∃ before k call after d, turns = before ++ .called k call :: after ∧ call.closes = true ∧
    call.perform k (c.run before) = .ok (.result (.ok ())) d

/-- What violations of the order mean in a run. -/
structure Orderly (c : Controller E H) (turns : List (Turn E.Surface H)) : Prop where
  noted : ∀ earlier k call later answer d violation, turns = earlier ++ .called k call :: later →
    call.perform k (c.run earlier) = .ok answer d → answer.violation? = some violation →
      (c.run earlier).Noted d
  late : (∀ r ∈ c.transcript turns, Returns r) →
    ∀ earlier k call later answer d, turns = earlier ++ .called k call :: later →
      call.perform k (c.run earlier) = .ok answer d → ∀ violation,
        answer.violation? = some violation ↔
          call.brings = true ∧ violation = .adoptAfterEnd ∧ c.Finishes earlier
  spotless : (∀ r ∈ c.transcript turns, Returns r) → (c.run turns).session.journal.Spotless

theorem Sound.fair_called (sound : c.Sound) (settled : ¬c.outline.Stranded)
    (fair : c.On (Session.Fair false)) {k : Conditions} {call : HostCall E.Surface H} {answer : Answer}
    (returned : call.perform k c = .ok answer d) : d.On (Session.Fair false) := by
  cases found : answer.violation? with
  | none =>
      refine On.called fair (fun idle => ?_) returned found
      have ready : c.isOpen = decide (c.stage = .ready) := sound.outline.ready_eq_stage settled
      rw [ready, idle]
      rfl
  | some violation =>
      obtain ⟨brings, -, ended⟩ := (sound.violation_iff settled returned violation).mp found
      obtain ⟨size, surface, assets, performs⟩ := HostCall.perform_of_brings brings k
      rw [performs] at returned
      obtain ⟨_, adopted, rfl⟩ := exists_of_return_ok returned
      rw [adopt_of_ended ended, (sound.isOver settled ended).stage] at adopted
      cases adopted
      exact ⟨List.forall_mem_cons.mpr ⟨fun _ => rfl, fair.spotless⟩, nofun⟩

theorem Sound.fair_run (sound : c.Sound) (settled : ¬c.outline.Stranded)
    (fair : c.On (Session.Fair false)) (turns : List (Turn E.Surface H))
    (returned : ∀ r ∈ c.transcript turns, Returns r) : (c.run turns).On (Session.Fair false) := by
  refine Sound.induction_run
    (P := fun c turns => c.On (Session.Fair false) → (c.run turns).On (Session.Fair false))
    (fun _ => id) ?_ ?_ sound settled turns returned fair
  · intro c d k call answer later sound settled returned ih fair
    have left : c.turned (.called k call) = d := congrArg stateOf returned
    rw [run_cons, left]
    exact ih (sound.fair_called settled fair returned)
  · intro c steps later ih fair
    exact ih (fair.steps steps)

theorem Sound.finishes_iff (sound : c.Sound) (settled : ¬c.outline.Stranded) (lasts : c.ended = false)
    (turns : List (Turn E.Surface H)) (returned : ∀ r ∈ c.transcript turns, Returns r) :
    c.Finishes turns ↔ (c.run turns).ended = true := by
  rw [sound.ended_run settled turns returned, lasts, Bool.false_or, List.any_eq_true]
  constructor
  · rintro ⟨before, k, call, after, d, rfl, closes, -⟩
    exact ⟨_, List.mem_append_right before List.mem_cons_self, closes⟩
  · rintro ⟨turn, made, closes⟩
    obtain ⟨before, after, rfl⟩ := List.append_of_mem made
    rw [transcript_append] at returned
    obtain ⟨earlier, others⟩ := List.forall_mem_append.mp returned
    cases turn with
    | worked _ => cases closes
    | called k call =>
        have ends := (sound.run before).endsOrPanics (sound.settled_run settled before earlier) k
        have returns := (List.forall_mem_cons.mp others).1
        rw [HostCall.perform_of_closes closes] at returns
        cases closed : closeActivity k (c.run before) with
        | ok answer d =>
            rw [closed] at ends
            obtain ⟨rfl, -⟩ := ends
            refine ⟨before, k, call, after, d, rfl, closes, ?_⟩
            rw [HostCall.perform_of_closes closes, bind_of_ok closed]
            rfl
        | error panic d =>
            rw [bind_of_error closed] at returns
            exact returns.elim

/-- A request that is refused leaves everything as it was, and so does a call, but for the lines that say so.
As long as no call panics, the only one that is refused brings a surface behind the end of the activity. -/
theorem run_orderly (engine : E.State) (settings : RenderSettings) (turns : List (Turn E.Surface H)) :
    (∀ (s t : Session E H) thread (request : Request E.Surface) reply violation,
      request.perform thread s = .ok reply t → reply.violation? = some violation → t = s) ∧
    (new engine settings : Controller E H).Orderly turns := by
  have start := sound_new (H := H) engine settings
  have settled := settled_new (H := H) engine settings
  have fair : (new engine settings : Controller E H).On (Session.Fair false) := ⟨nofun, nofun⟩
  refine ⟨fun s t thread request reply violation => Request.same_of_violation, ?_, ?_, ?_⟩
  · intro earlier k call later answer d violation _ returned found
    exact (start.run earlier).noted_of_violation returned found
  · rintro calm earlier k call later answer d rfl returned violation
    rw [transcript_append] at calm
    have before := (List.forall_mem_append.mp calm).1
    rw [start.finishes_iff settled rfl earlier before]
    exact (start.run earlier).violation_iff (start.settled_run settled earlier before) returned violation
  · exact fun calm => (start.fair_run settled fair turns calm).spotless

end Controller
end SurfaceGate
