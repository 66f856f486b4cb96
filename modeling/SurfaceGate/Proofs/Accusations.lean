import SurfaceGate.Proofs.Invariant

/-!
Lines that accuse the caller of a wrong order.

Where a violation is found the log says so, even if nobody is answered: the controller notes what the gate
answers when the surface is taken back, and goes on. So a log without such lines tells more than the answers.
Workers never write one, and no step of a cycle does as long as the gate is closed when the surface is taken
back; the begin of a cycle and the end of the engine write one only if they answer with the violation.
-/

namespace SurfaceGate

variable {E : Engine} {H α β : Type}

/-- Nobody is accused, but for a surface behind the end of the activity. -/
def Journal.Spotless (journal : Journal E H) : Prop :=
  ∀ entry ∈ journal, entry.Accuses → entry = .late

/-- Nobody was accused so far; if `shut`, the gate is closed. -/
structure Session.Fair (shut : Bool) (s : Session E H) : Prop where
  spotless : s.journal.Spotless
  closed : shut = true → s.gate.ready = false

namespace Session.Fair

variable {shut : Bool} {s t : Session E H}

theorem weaken (fair : s.Fair shut) : s.Fair false :=
  ⟨fair.spotless, nofun⟩

theorem write {entry : Entry E H} (silent : ¬entry.Accuses) (fair : s.Fair shut) :
    (s.write entry).Fair shut where
  spotless := List.forall_mem_cons.mpr ⟨fun accuses => absurd accuses silent, fair.spotless⟩
  closed := fair.closed

theorem close (thread : Thread) (call : Call E.Surface) (outcome : Outcome)
    (p : Performance E.State E.Effect) (fair : s.Fair shut) : (s.close thread call outcome p).Fair shut :=
  write (Entry.not_accuses_of_unsaid nofun) ⟨fair.spotless, fair.closed⟩

theorem outlasts (shut : Bool) : Outlasts (Fair shut : Session E H → Prop) where
  worker _ fair := ⟨fair.spotless, fair.closed⟩
  draws _ _ _ _ _ := close _ _ _ _
  speaks _ _ := write (Entry.not_accuses_of_unsaid nofun)
  started _ := write (Entry.not_accuses_of_unsaid nofun)
  joined _ _ := write (Entry.not_accuses_of_unsaid nofun)
  died _ _ := write (Entry.not_accuses_of_start (by simp [toString]))

theorem steps (n : Nat) (fair : s.Fair shut) : (s.steps n).Fair shut :=
  (outlasts shut).keeps.steps n fair

/-- A request accuses nobody, and opens the gate only if it asks for that. -/
theorem handled {thread : Thread} {request : Request E.Surface} (handles : Handles thread s request t)
    (opens : request = .allow → shut = false) (fair : s.Fair shut) : t.Fair shut := by
  cases handles with
  | refused other => exact fair
  | called call outcome p makes admitted gate journal =>
      have silent : ¬(.call ⟨thread, call, p.deeds, outcome⟩ : Entry E H).Accuses :=
        Entry.not_accuses_of_unsaid nofun
      refine ⟨?_, fun closed => ?_⟩
      · rw [journal]
        exact (fair.write silent).spotless
      · rw [gate]
        simp only [Gate.noted]
        split <;> exact fair.closed closed
  | unbound _ _ => exact ⟨fair.spotless, fair.closed⟩
  | opened _ _ =>
      have silent : ¬(.readiness true : Entry E H).Accuses := Entry.not_accuses_of_unsaid nofun
      exact ⟨(fair.write silent).spotless, fun closed => nomatch (opens rfl).symm.trans closed⟩
  | closed =>
      have silent : ¬(.readiness false : Entry E H).Accuses := Entry.not_accuses_of_unsaid nofun
      exact ⟨(fair.write silent).spotless, fun _ => rfl⟩

end Session.Fair

/-- A closed gate refuses nothing to the host that takes the surface back. -/
theorem Gate.attach_of_takeBack {thread : Thread} {s t : Session E H} (closed : s.gate.ready = false)
    {error : GateError} (failed : Gate.takeBack thread s = .ok (.error error) t) :
    ∃ why, error = .attach why := by
  simp only [Gate.takeBack] at failed
  rw [Act.look, if_neg (by simp [closed]), bind_of_ok (x := Act.setGate _) rfl] at failed
  split at failed
  · obtain ⟨answer, u, asked, failed⟩ := exists_of_bind_ok failed
    cases answer with
    | ok _ => cases failed
    | error why =>
        cases failed
        exact ⟨why, rfl⟩
  · cases failed

theorem exists_of_onSession_ok {x : Act E H α} {c d : Controller E H} {a : α}
    (returned : Control.onSession x c = .ok a d) :
    ∃ s, x c.session = .ok a s ∧ d = { c with session := s } := by
  simp only [Control.onSession] at returned
  cases hx : x c.session with
  | ok b s =>
      rw [hx] at returned
      cases returned
      exact ⟨s, rfl, rfl⟩
  | error panic s =>
      rw [hx] at returned
      cases returned

/-- A step accuses nobody, and leaves the gate closed that has to be `shut`. -/
abbrev Control.Fairly (shut : Bool) (x : Control E H α) : Prop :=
  Preserves (Controller.On (Session.Fair shut)) x

namespace Control.Fairly

open Controller (On)

variable {shut : Bool}

theorem onSession {x : Act E H α} (kept : Preserves (Session.Fair shut) x) :
    Fairly shut (Control.onSession x) := by
  intro c fair
  have after := kept c.session fair
  simp only [Control.onSession]
  cases hx : x c.session with
  | ok a s | error panic s =>
      rw [hx] at after
      exact after

theorem set {f : Controller E H → Controller E H} (session : ∀ c, (f c).session = c.session) :
    Fairly shut (modify f : Control E H PUnit) :=
  .change fun c fair => (congrArg (Session.Fair shut) (session c)).mpr fair

theorem log {level : Log.Level} {text : String} (silent : ¬(.line .host ⟨level, text⟩ : Entry E H).Accuses) :
    Fairly shut (Control.log level text : Control E H Unit) :=
  onSession (.change fun _ => Session.Fair.write silent)

theorem remark {level : Log.Level} (text : String) (other : level ≠ .error) :
    Fairly shut (Control.log level text : Control E H Unit) :=
  log (Entry.not_accuses_of_level other)

theorem closeGate (k : Conditions) {c : Controller E H} (fair : c.On (Session.Fair shut)) :
    ∃ d, Control.closeGate k c = .ok () d ∧ d.On (Session.Fair true) := by
  have ran := fair.steps (k.pace .closing)
  exact ⟨{ c with session := (c.session.steps (k.pace .closing)).setReady false }, rfl,
    (ran.weaken.handled (Handles.closed : Handles .host _ _ _) nofun).spotless, fun _ => rfl⟩

theorem giveUpSurface : Fairly true (Control.giveUpSurface : Control E H Unit) := by
  intro c fair
  have taken : Fairly true (Control.onSession (Gate.takeBack .host) : Control E H _) :=
    onSession fun s fair => fair.handled (Handles.takeBack .host s) nofun
  have letGo : Fairly true (modify ({ · with surface := none, size := none }) : Control E H Unit) :=
    set fun _ => rfl
  have left := taken c fair
  cases asked : Control.onSession (Gate.takeBack .host) c with
  | error panic d =>
      rw [asked] at left
      exact (congrArg stateOf (bind_of_error asked)) ▸ left
  | ok answer d =>
      rw [asked] at left
      refine (congrArg stateOf (bind_of_ok asked)) ▸ ?_
      cases answer with
      | ok _ => exact letGo d left
      | error error =>
          obtain ⟨t, refused, -⟩ := exists_of_onSession_ok asked
          obtain ⟨why, rfl⟩ := Gate.attach_of_takeBack (fair.closed rfl) refused
          have silent : ¬(.line .host ⟨.error, (GateError.attach why).message⟩ : Entry E H).Accuses :=
            Entry.not_accuses_of_error rfl
          exact Along.bind (log silent) (fun _ => letGo) d left

theorem moves : Moves (On (Session.Fair shut) : Controller E H → Prop) where
  write quiet := Session.Fair.write quiet.fair
  rested n fair := fair.steps n
  staged _ := id
  joined := (Session.Fair.outlasts shut).takeWorker
  ended _ := id

theorem dismantles :
    Dismantles (On (Session.Fair false) : Controller E H → Prop) (On (Session.Fair true)) where
  before := moves
  behind := moves
  shut fair := ⟨(fair.handled (Handles.closed : Handles .host _ _ _) nofun).spotless, fun _ => rfl⟩
  weaken := Session.Fair.weaken
  givenUp := giveUpSurface
  forgot := id

theorem serves : Serves (On (Session.Fair false) : Controller E H → Prop) where
  toRemarks := moves.toRemarks
  pointed _ := id
  fed event := onSession fun s fair => fair.handled (Handles.feed .host event s) nofun
  dropped := id
  dismantled k c _ := dismantles.dismantle k c
  workerDropped := onSession (Session.Fair.outlasts false).dropWorker
  told _ := Session.Fair.write
  supported := id

end Control.Fairly

end SurfaceGate
