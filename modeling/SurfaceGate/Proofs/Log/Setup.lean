import SurfaceGate.Log.Setup
import SurfaceGate.Proofs.Text.Terminal

/-!
What a logger wants, and what it writes.

One directive decides about a record, the one with the longest name of those that fit. It wants every record that is
as urgent as one it wants. What the logger writes can be shown, whatever the records hold.
-/

namespace SurfaceGate.Log

theorem Threshold.admits_of_le {threshold : Threshold} {level other : Level}
    (admitted : threshold.admits level = true) (urgent : other.rank ≤ level.rank) :
    threshold.admits other = true := by
  cases threshold with
  | off => cases admitted
  | upTo wanted =>
      have within : level.rank ≤ wanted.rank := of_decide_eq_true admitted
      exact decide_eq_true (Nat.le_trans urgent within)

namespace Filter

variable {filter : Filter} {target : String} {level other : Level}

theorem target_mem_add {d : Directive} {name : Option String} :
    name ∈ (add d filter).map Directive.target ↔ name = d.target ∨ name ∈ filter.map Directive.target := by
  induction filter with
  | nil => simp [add]
  | cons e rest ih =>
      rw [add]
      split
      next same => simp [same]
      next =>
        simp only [List.map_cons, List.mem_cons, ih]
        exact or_left_comm

theorem nodup_add {d : Directive} (distinct : (filter.map Directive.target).Nodup) :
    ((add d filter).map Directive.target).Nodup := by
  induction filter with
  | nil => simp [add]
  | cons e rest ih =>
      obtain ⟨new, later⟩ := List.nodup_cons.mp distinct
      rw [add]
      split
      next same => exact List.nodup_cons.mpr ⟨same ▸ new, later⟩
      next apart =>
        refine List.nodup_cons.mpr ⟨?_, ih later⟩
        rw [target_mem_add]
        exact not_or.mpr ⟨apart, new⟩

/-- No two directives of a filter that was read have the same name. -/
theorem nodup_ofParts (parts : List Part) : ((ofParts parts).map Directive.target).Nodup := by
  refine List.foldlRecOn (motive := fun filter : Filter => (filter.map Directive.target).Nodup) parts _
    List.nodup_nil fun filter distinct part _ => ?_
  cases part with
  | directive d => exact nodup_add distinct
  | invalid _ => exact distinct

theorem foldl_closer_spec {fitting : List Directive} {best : Option Directive} {d : Directive}
    (chosen : fitting.foldl closer best = some d) :
    d ∈ best.toList ++ fitting ∧ ∀ e ∈ best.toList ++ fitting, e.weight ≤ d.weight := by
  induction fitting generalizing best with
  | nil =>
      rw [List.foldl_nil] at chosen
      simp [chosen]
  | cons e rest ih =>
      obtain ⟨among, longest⟩ := ih chosen
      cases best with
      | none => exact ⟨among, longest⟩
      | some other =>
          rw [closer] at among longest
          change d ∈ other :: e :: rest ∧ ∀ f ∈ other :: e :: rest, f.weight ≤ d.weight
          split at among
          next longer =>
            rw [if_pos longer] at longest
            have most : e.weight ≤ d.weight := longest e List.mem_cons_self
            exact ⟨List.mem_cons_of_mem _ among,
              List.forall_mem_cons.mpr ⟨Nat.le_trans longer most, longest⟩⟩
          next shorter =>
            rw [if_neg shorter] at longest
            obtain ⟨most, later⟩ := List.forall_mem_cons.mp longest
            have passed : e.weight ≤ d.weight := Nat.le_trans (Nat.le_of_not_le shorter) most
            refine ⟨?_, List.forall_mem_cons.mpr ⟨most, List.forall_mem_cons.mpr ⟨passed, later⟩⟩⟩
            rcases List.mem_cons.mp among with rfl | after
            · exact List.mem_cons_self
            · exact List.mem_cons_of_mem _ (List.mem_cons_of_mem _ after)

/-- Of the directives that fit, one with the longest name decides. -/
theorem closest?_spec {d : Directive} (chosen : filter.closest? target = some d) :
    (d ∈ filter.directives ∧ d.fits target = true) ∧
      ∀ e ∈ filter.directives, e.fits target = true → e.weight ≤ d.weight := by
  obtain ⟨among, longest⟩ := foldl_closer_spec chosen
  refine ⟨List.mem_filter.mp among, fun e given fits => ?_⟩
  exact longest e (List.mem_filter.mpr ⟨given, fits⟩)

theorem admits_of_le (admitted : filter.admits target level = true) (urgent : other.rank ≤ level.rank) :
    filter.admits target other = true := by
  rw [admits] at admitted ⊢
  cases chosen : filter.closest? target with
  | none => simp [chosen] at admitted
  | some d =>
      rw [chosen] at admitted
      exact Threshold.admits_of_le admitted urgent

end Filter

namespace Logger

variable {logger : Logger} {r : Record}

theorem shown_write (logger : Logger) (r : Record) : Text.Shown (logger.write r) := by
  rw [write]
  split
  · exact Text.shown_readable _
  · exact nofun

/-- A line that can be shown is written as it is. -/
theorem write_of_shown (wanted : logger.filter.admits r.target r.level = true)
    (shown : Text.Shown (logger.line r)) : logger.write r = logger.line r ++ "\n" := by
  rw [write, if_pos wanted, Text.readable_append_of_shown shown]
  rfl

end Logger

/-- Behind the complaints about its filter, all that a logger writes can be shown. -/
theorem exists_shown_session (settings : Settings) (environment : Option String) (occupied : Bool)
    (records : List Record) :
    ∃ written, Text.Shown written ∧ session settings environment occupied records =
      String.join ((chooseFilter settings environment).2.map (· ++ "\n")) ++ written := by
  cases occupied with
  | true => exact ⟨"", nofun, String.append_empty.symm⟩
  | false =>
      let logger : Logger := ⟨(chooseFilter settings environment).1, settings.tag⟩
      have later : Text.Shown (String.join (records.map logger.write)) := by
        refine Text.shown_join fun text mem => ?_
        obtain ⟨r, -, rfl⟩ := List.mem_map.mp mem
        exact logger.shown_write r
      exact ⟨_, (logger.shown_write readyRecord).append later, String.append_assoc⟩

end SurfaceGate.Log
