import SchemaWrappers.Proofs.CommandLine.Course

/-! A call changes the module's file and the log file alone, and the module's file as a whole or not
at all. -/
namespace SchemaWrappers.CommandLine
open Run

variable {reader : Program.Reader} {r : Request} {w : World} {result : Ending × World}

/-- What is recorded when a module was stored goes to the log file alone. -/
theorem changed_delivered {tree : FileTree} {p : Path} {text : String}
    (ht : (drafted reader r w).tree.write w.place.here p (Utf8.encode text.toList) = .ok tree) :
    tree.ChangedOnly (LogPlace r w) (delivered reader r w tree p text).tree := by
  have hrecord := World.changed_by_record (FileTree.changed_update ht)
    (Output.stored p (Utf8.encode text.toList))
  exact hrecord.mono fun l hl =>
    (opened_ready r w).logPlace l (((recorded_drafted reader r w).logPlace l).mp hl)

/-- A call that writes its module changes its file and the log file, and the module is what was
drafted, unless the log overwrites it. -/
theorem Course.written (h : Course reader r w result) (hend : result.1 = .exit 0) :
    ∃ p text, answer (draft reader r) (ready r w) = .ok (p, .text text) ∧
      w.tree.ChangedOnly (fun l => w.tree.Names w.place.here p l ∨ LogPlace r w l) result.2.tree ∧
      ((∀ l, w.tree.Names w.place.here p l → ¬ LogPlace r w l) →
        result.2.tree.look w.place.here p = .ok (some (.file (Utf8.encode text.toList)))) := by
  cases h with
  | unopened => cases hend
  | stopped => exact absurd hend (ended_ne_exit_zero _ _)
  | unstored => exact absurd hend (ended_ne_exit_zero _ _)
  | @stored p text tree h hd hp ht =>
    have hdrafted := changed_drafted reader r w
    have hdelivered := changed_delivered ht
    have hwrite : w.tree.ChangedOnly
        (fun l => w.tree.Names w.place.here p l ∨ LogPlace r w l) tree :=
      (hdrafted.mono fun l => .inr).trans ((FileTree.changed_update ht).mono fun l hl =>
        .inl ((FileTree.names_changed hdrafted).mp hl))
    refine ⟨p, text, hd, hwrite.trans (hdelivered.mono fun l => .inr), fun hapart => ?_⟩
    have hlook := FileTree.look_changed hdelivered fun l hl =>
      hapart l ((FileTree.names_changed hwrite).mp hl)
    rw [hlook, FileTree.look_write ht hp]

end SchemaWrappers.CommandLine
