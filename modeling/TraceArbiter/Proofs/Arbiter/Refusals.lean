import TraceArbiter.Proofs.Facility.Watched

/-!
# Refused writes

A removal over a watched facility. What it does is what it does over the facility itself, so the notes
tell which writes were refused on the way; a removal during which no filter write is refused has
installed its filter.
-/

namespace TraceArbiter.Arbiter

variable {σ α : Type} [Facility σ]

/-- Starting and stopping annotations is not noted. -/
theorem translates_shrinkAnnotations :
    Translates (σ := σ) .watched shrinkAnnotations shrinkAnnotations := by
  refine .get_bind fun a refused => .ite (.ite ?_ ?_) (.pure _)
  · exact .bind (.access (Watched.follows_lift _)) fun _ => .note fun _ => rfl
  · refine .bind (.access (Watched.follows_lift _)) ?_
    rintro (e | ⟨⟩)
    · exact .pure _
    · exact .note fun _ => rfl

/-! ### What the notes tell -/

omit [Facility σ] in
theorem require_notes {P : String → Prop} {m : Access (Watched σ) α} (h : Access.NotesFailure P m)
    {w w' : Arbiter (Watched σ)} {e : SetupFailure}
    (hrun : (require m).run.run w = (.error e, w')) : ∃ path ∈ w'.facility.refused, P path := by
  rw [require_run] at hrun
  split at hrun
  · cases hrun
  · next haccess =>
    cases hrun
    exact h _ _ _ haccess

theorem installSyscallFilter_notes {extra : SyscallFilter} {w w' : Arbiter (Watched σ)}
    {e : SetupFailure} (hrun : (installSyscallFilter extra).run.run w = (.error e, w')) :
    ∃ path ∈ w'.facility.refused, path ∈ Control.syscallFilters := by
  unfold installSyscallFilter at hrun
  rw [run_get_bind] at hrun
  dsimp only at hrun
  split at hrun
  · cases hrun
  · rw [run_bind] at hrun
    split at hrun
    · cases hrun
    · next hrequire =>
      cases hrun
      exact require_notes (.setSyscallFilter _) hrequire

/-- A removal during which no filter write is refused installs its filter. -/
theorem installSyscallFilter_of_not_refused {id : SessionId} {a : Arbiter σ}
    (hregistered : a.isRegistered id)
    (hrefused : ∀ path ∈ refusedWrites (remove id) a, path ∉ Control.syscallFilters) :
    ∃ wrote a', (installSyscallFilter .none).run.run (shrinkAnnotations.run (a.without id)).2 =
      (.ok wrote, a') := by
  match hinstall : (installSyscallFilter .none).run.run (shrinkAnnotations.run (a.without id)).2 with
  | (.ok wrote, a') => exact ⟨wrote, a', rfl⟩
  | (.error e, a') =>
    exfalso
    have hfaithful := Translation.faithful_watched (σ := σ)
    have hlater : Translates (σ := σ) .watched (do shrinkEvents; deactivate id)
        (do shrinkEvents; deactivate id) :=
      .bind hfaithful.shrinkEvents fun _ => hfaithful.deactivate id
    -- What is noted up to the filter is still among the notes when the removal is over.
    obtain ⟨first, -, hannotations⟩ := translates_shrinkAnnotations.exists_noted (a.without id) []
    obtain ⟨noted, -, hfilter⟩ := (hfaithful.installSyscallFilter .none).exists_noted
      (shrinkAnnotations.run (a.without id)).2 first
    rw [show StateT.run _ _ = _ from hinstall] at hfilter
    obtain ⟨refused, hkept, hrest⟩ := hlater.exists_noted a' noted
    obtain ⟨path, hpath, hcontrol⟩ := installSyscallFilter_notes hfilter
    refine hrefused path ?_ hcontrol
    have hremove : refusedWrites (remove id) a = refused := by
      unfold refusedWrites
      rw [remove_run, if_pos (show (a.watched []).isRegistered id from hregistered)]
      rw [show (a.watched []).without id = (a.without id).watched [] from rfl, hannotations]
      dsimp only
      rw [shrinkSyscallFilter_run, hfilter]
      exact congrArg (fun run => run.2.facility.refused) hrest
    rw [hremove]
    exact hkept.subset hpath

end TraceArbiter.Arbiter
