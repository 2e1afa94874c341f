import CommandAudit.Command.Run
import CommandAudit.Proofs.MarkedText

/-!
# How parts of a run end

`Run.ReturnsIff` describes a part of a run by the files it starts from: it returns a value and
leaves certain files if a condition holds, and otherwise a fault ends the run. The lines and the log
are left out, because no outcome depends on them. The rules below put the description of a run
together from those of its steps, with the conjunction of their conditions.
-/

namespace CommandAudit

namespace Run

variable {α β : Type}

theorem run_bind (m : Run α) (f : α → Run β) (s : RunState) :
    (m >>= f).run s = (match m.run s with
      | (.ok a, s') => (f a).run s'
      | (.error e, s') => (.error e, s') : Except Failure β × RunState) := by
  simp only [ExceptT.run, bind, ExceptT.bind, ExceptT.mk, StateT.bind, ExceptT.bindCont]
  cases m s with
  | mk result s' => cases result <;> rfl

theorem run_liftM (x : Outcome α) (s : RunState) : (liftM x : Run α).run s = (x, s) :=
  rfl

theorem run_get (s : RunState) : (get : Run RunState).run s = (.ok s, s) :=
  rfl

theorem run_record (records : List LogRecord) (s : RunState) :
    (record records).run s = (.ok (), { s with log := s.log ++ records }) :=
  rfl

/-! ## Returning on a condition -/

/-- Started with the files `t`, the part of a run returns `a` and leaves the files `t'` if `p`
holds, and breaks down otherwise. -/
structure ReturnsIff (m : Run α) (t : FileTree) (a : α) (t' : FileTree) (p : Prop) : Prop where
  /-- The value is returned. -/
  returns : p → ∀ s, s.files = t → ∃ s', m.run s = (.ok a, s') ∧ s'.files = t'
  /-- The run is over. -/
  breaks : ¬p → ∀ s, s.files = t → ∃ fault s', m.run s = (.error (.breakdown fault), s')

variable {m : Run α} {f : α → Run β} {t t' t'' : FileTree} {a : α} {b : β} {p q : Prop}

theorem ReturnsIff.congr (h : m.ReturnsIff t a t' p) (hpq : p ↔ q) : m.ReturnsIff t a t' q :=
  propext hpq ▸ h

theorem ReturnsIff.bind (hm : m.ReturnsIff t a t' p) (hf : (f a).ReturnsIff t' b t'' q) :
    (m >>= f).ReturnsIff t b t'' (p ∧ q) := by
  refine ⟨fun ⟨hp, hq⟩ s hs => ?_, fun hpq s hs => ?_⟩
  · obtain ⟨s', hrun, hs'⟩ := hm.returns hp s hs
    rw [run_bind, hrun]
    exact hf.returns hq s' hs'
  · by_cases hp : p
    · obtain ⟨s', hrun, hs'⟩ := hm.returns hp s hs
      rw [run_bind, hrun]
      exact hf.breaks (fun hq => hpq ⟨hp, hq⟩) s' hs'
    · obtain ⟨fault, s', hrun⟩ := hm.breaks hp s hs
      rw [run_bind, hrun]
      exact ⟨fault, s', rfl⟩

/-- A first part that always returns adds no condition. -/
theorem ReturnsIff.then (hm : m.ReturnsIff t a t' True) (hf : (f a).ReturnsIff t' b t'' q) :
    (m >>= f).ReturnsIff t b t'' q :=
  (hm.bind hf).congr (iff_of_eq (true_and q))

/-- What comes after a fault does not matter. -/
theorem ReturnsIff.bind_of_false (hm : m.ReturnsIff t a t' False) (b : β) (t'' : FileTree) :
    (m >>= f).ReturnsIff t b t'' False := by
  refine ⟨False.elim, fun h s hs => ?_⟩
  obtain ⟨fault, s', hrun⟩ := hm.breaks h s hs
  rw [run_bind, hrun]
  exact ⟨fault, s', rfl⟩

theorem returnsIff_pure (a : α) (t : FileTree) : (pure a : Run α).ReturnsIff t a t True :=
  ⟨fun _ s hs => ⟨s, rfl, hs⟩, fun h => absurd trivial h⟩

theorem ReturnsIff.bind_pure (hm : m.ReturnsIff t a t' p) (f : α → β) :
    (m >>= fun x => pure (f x)).ReturnsIff t (f a) t' p :=
  (ReturnsIff.bind hm (f := fun x => pure (f x)) (returnsIff_pure (f a) t')).congr
    (iff_of_eq (and_true p))

theorem returnsIff_ok {x : Outcome α} (h : x = .ok a) (t : FileTree) :
    (liftM x : Run α).ReturnsIff t a t True := by
  subst h
  exact returnsIff_pure a t

theorem returnsIff_breakdown {x : Outcome α} {fault : Breakdown}
    (h : x = .error (.breakdown fault)) (t : FileTree) (a : α) (t' : FileTree) :
    (liftM x : Run α).ReturnsIff t a t' False := by
  subst h
  exact ⟨False.elim, fun _ s _ => ⟨fault, s, rfl⟩⟩

theorem returnsIff_record (records : List LogRecord) (t : FileTree) :
    (record records).ReturnsIff t () t True :=
  ⟨fun _ _ hs => ⟨_, rfl, hs⟩, fun h => absurd trivial h⟩

/-- Blocks are written one after the other, up to the first that cannot be. -/
theorem returnsIff_print (terminal : Terminal) (blocks : List Block) (t : FileTree) :
    (print terminal blocks).ReturnsIff t () t (∀ b ∈ blocks, terminal.Writes b) := by
  induction blocks with
  | nil => exact (returnsIff_pure () t).congr (by simp)
  | cons b rest ih =>
    have hblock : (do
        let lines ← orBreak (terminal.write b)
        modify fun s => { s with lines := s.lines ++ lines } : Run Unit).ReturnsIff t () t
          (terminal.Writes b) := by
      cases hlines : terminal.write b with
      | ok lines =>
        exact ⟨fun _ _ hs => ⟨_, rfl, hs⟩, fun h => absurd ⟨lines, hlines⟩ h⟩
      | error fault =>
        refine ⟨fun ⟨lines, h⟩ => ?_, fun _ s _ => ⟨fault, s, rfl⟩⟩
        rw [hlines] at h
        exact absurd h (by simp)
    have h := hblock.bind (f := fun _ => print terminal rest) ih
    rw [List.forall_mem_cons]
    exact h

/-- The blocks are written only if `shown` holds. -/
theorem ReturnsIff.print_if {k : Run α} (hk : k.ReturnsIff t a t' p) (shown : Prop)
    [Decidable shown] (terminal : Terminal) (blocks : List Block) :
    (if shown then print terminal blocks >>= fun _ => k else k).ReturnsIff t a t'
      ((shown → ∀ b ∈ blocks, terminal.Writes b) ∧ p) := by
  by_cases hshown : shown
  · rw [if_pos hshown]
    exact ((returnsIff_print terminal blocks t).bind hk).congr (by simp [hshown])
  · rw [if_neg hshown]
    exact hk.congr (by simp [hshown])

end Run

/-! ## Writing reports -/

theorem returnsIff_printReport (report : Report) (t : FileTree) :
    (printReport report).ReturnsIff t () t (report.isEncodable = true) := by
  unfold printReport
  split
  · next h => exact ⟨fun _ _ hs => ⟨_, rfl, hs⟩, fun hn => absurd h hn⟩
  · next h => exact ⟨fun hp => absurd hp h, fun _ s _ => ⟨.notEncodable, s, rfl⟩⟩

/-- The file is written before it is known whether the report can be. -/
theorem run_saveReport (report : Report) (path : Path) (s : RunState) :
    (saveReport report path).run s =
      (let text := if report.isEncodable then report.toJson.canonical else ""
      match s.files.save path (encodeUtf8 text.toList) with
      | .error e => (.error (.breakdown (.file e)), s)
      | .ok files =>
        if report.isEncodable then
          (.ok (), { s with
            files, saved := some (path, text)
            log := s.log ++ [savedRecord report.scripts.length path] })
        else
          (.error (.breakdown .notEncodable), { s with files, saved := some (path, text) })) := by
  unfold saveReport
  rw [Run.run_bind, Run.run_get]
  dsimp only
  rw [Run.run_bind, Run.run_liftM]
  cases s.files.save path _ with
  | error e => rfl
  | ok files => cases report.isEncodable <;> rfl

/-- A report is saved if it can be written and the file can. -/
theorem returnsIff_saveReport (report : Report) (path : Path) (t : FileTree) :
    (saveReport report path).ReturnsIff t ()
      ((t.save path (encodeUtf8 report.toJson.canonical.toList)).toOption.getD t)
      (report.isEncodable = true ∧
        ∃ files, t.save path (encodeUtf8 report.toJson.canonical.toList) = .ok files) := by
  constructor
  · rintro ⟨hencodable, files, hfiles⟩ s rfl
    simp only [run_saveReport, hencodable, if_true, hfiles]
    exact ⟨_, rfl, rfl⟩
  · rintro hbreak s rfl
    rw [run_saveReport]
    dsimp only
    split
    · exact ⟨_, _, rfl⟩
    · next files hfiles =>
      split
      · next hencodable =>
        rw [if_pos hencodable] at hfiles
        exact absurd ⟨hencodable, files, hfiles⟩ hbreak
      · exact ⟨_, _, rfl⟩

end CommandAudit
