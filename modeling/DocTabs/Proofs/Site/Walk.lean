/-
The walk of a build. On every disk that reads as the first one outside the output directory, the
walk treats the listed source files one after another: what it writes does not show in what it
lists later.
-/
import DocTabs.Proofs.Site.Frame
import DocTabs.Proofs.Site.Source

namespace DocTabs.Site

open Disk FilePath Step

variable {plan : Plan} {d e : Disk} {root out dir : Location} {w : Progress}

/-- The output directory is the only entry of a directory that can differ, and it is there. -/
theorem names_of_outside (hd : d.IsTree) (hout : ¬ out <+: root ++ dir)
    (hdir : d.get? out = some .directory) (he : Outside out d e) :
    e.names (root ++ dir) = d.names (root ++ dir) := by
  refine names_congr he.tree hd fun name => ?_
  by_cases hbelow : out <+: root ++ dir ++ [name]
  · obtain rfl := (List.prefix_concat_iff.1 hbelow).resolve_right hout
    rw [hdir, he.kept _ hdir]
  · rw [he.same _ hbelow]

theorem keeps_treat_listed (hd : d.IsTree) (hp : d.Leads plan.output out)
    (hout : ¬ out <+: root ++ dir) (depth : Nat) (name : String) :
    Keeps (Outside out d)
      ((listEntry d root out (sourcesFrom d root out depth) (dir ++ [name])).forM (plan.treat root)) := by
  refine .forM fun file hfile => ?_
  obtain ⟨⟨rest, rfl⟩, f, hf⟩ := exists_of_mem_listEntry hd hout hfile
  have hnames : ∀ s ∈ dir ++ name :: rest, IsName s := fun s hs =>
    hd.isName hf s (List.mem_append_right _ hs)
  exact keeps_treat (stable_outside out d) hp (by simp) hnames fun _ _ => trivial

/-- The walk below a directory is the treatment of the files listed from there. -/
theorem visit_eq (hd : d.IsTree) (hp : d.Leads plan.output out) {depth : Nat}
    (hout : ¬ out <+: root ++ dir) (hw : Outside out d w.disk) :
    plan.visit root out depth dir w = (sourcesFrom d root out depth dir).forM (plan.treat root) w := by
  induction depth generalizing dir w with
  | zero => rfl
  | succ depth ih =>
    rw [visit_succ, get_bind, sourcesFrom, forM_flatMap, ← names_of_outside hd hout hp.2 hw]
    refine forM_congr (I := Outside out d) (fun name hname u hu => ?_)
      (fun name _ => keeps_treat_listed hd hp hout depth name) hw
    -- one entry: the disk still shows at it what it showed at first
    unfold listEntry
    by_cases hne : root ++ (dir ++ [name]) = out
    · rw [turn_excluded hne, if_pos hne]
      rfl
    have hentry := not_below_concat hout hne
    rw [turn_eq hne, if_neg hne, hu.same _ hentry]
    rcases hget : d.get? (root ++ (dir ++ [name])) with _ | _ | _
    · -- a name that is listed is that of an entry
      rw [names_of_outside hd hout hp.2 hw] at hname
      have hlisted := (mem_names hd).1 (List.mem_filter.1 hname).1
      rw [List.append_assoc] at hlisted
      exact absurd hget hlisted
    · show _ = (plan.treat root (dir ++ [name]) >>= fun _ => pure ()) u
      rw [bind_pure_unit]
    · exact ih hentry hu

end DocTabs.Site
