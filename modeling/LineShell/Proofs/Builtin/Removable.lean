import LineShell.Proofs.Builtin.Removing
/-!
# Removable — which entries `rm` can remove

An entry of a directory is removed by its name from there if its metadata can be had, links followed: `rm -r` removes what
leads to a directory, and `rm` without it all else (`Rm.removes_entry`).  Every entry that is no link is so.  A link that
leads nowhere is not, and then neither form of `rm` removes it, although `ls` shows it (`Rm.keeps_dangling_link`).
-/
namespace LineShell
namespace Rm

open Bench (Leads)

variable {b : Bench} {w name : String} {t : Trail} {id : NodeId} {fs : Files} {recursive : Bool} {m : Metadata}

theorem leads_run_singleton (hslot : b.slot ≠ .full) (path : String) (recursive : Bool) (name : String) :
    Leads (run path recursive [name]) b
      (.done (reported (turn recursive (Action.resolve path name) b.files).1.toList))
      { b with files := (turn recursive (Action.resolve path name) b.files).2 } := by
  have hrun := leads_run hslot path recursive (List.cons_ne_nil name [])
  simpa only [turns, List.append_nil] using hrun

theorem turn_of_served {request : FileRequest} {answer : request.Answer} {left : Files} {p : Path}
    (hm : fs.metadata .follow p = .ok m) (hrequest : removal recursive p m.kind = .ok request)
    (hserve : fs.serve request = (.ok answer, left)) : turn recursive p fs = (none, left) := by
  rw [turn, hm]
  dsimp only
  rw [hrequest]
  dsimp only
  rw [hserve]

theorem turn_of_refused {message : String} {p : Path} (hm : fs.metadata .follow p = .ok m)
    (hrefused : removal recursive p m.kind = .error message) : turn recursive p fs = (some message, fs) := by
  rw [turn, hm]
  dsimp only
  rw [hrefused]

theorem leads_of_report {message : String} (hslot : b.slot ≠ .full)
    (h : turn recursive (Action.resolve w name) b.files = (some message, b.files)) :
    Leads (run w recursive [name]) b (.done (.error (.other (String.intercalate "\n" [message])))) b := by
  have hrun := leads_run_singleton hslot w recursive name
  rwa [h] at hrun

theorem removal_of_kind (p : Path) (kind : Kind) :
    removal (kind == .directory) p kind = .ok (if kind = .directory then .removeTree p else .unlink p) ∧
      ∃ message, removal (kind != .directory) p kind = .error message := by
  cases kind with
  | directory | file | link | device => exact ⟨rfl, _, rfl⟩

theorem turn_of_entry (hw : fs.trailTo .follow (Path.ofString w) = .ok t) (hname : Path.IsName (Path.ofString name))
    (hchild : fs.child? t.node (Path.ofString name) = some id)
    (hm : fs.metadata .follow (Action.resolve w name) = .ok m) : ∃ left,
    turn (m.kind == .directory) (Action.resolve w name) fs = (none, left) ∧
      (left.child? t.node (Path.ofString name) = none ∨
        left.entries? id = some [] ∧ left.trailTo .follow (Path.ofString w) = .error (.system .notFound)) := by
  have hdir : fs.isDirectory t.node = true := by
    obtain ⟨entries, hes, -⟩ := Option.bind_eq_some_iff.1 hchild
    rw [Files.isDirectory, hes]
    rfl
  obtain ⟨trail, node, htrail, hnode, rfl⟩ := Files.metadata_eq_ok_iff.1 hm
  have hcheck := (Files.trailTo_eq_ok_iff.1 htrail).1
  have hparent := Files.parent_join hname hw hdir hcheck
  have hkeep := Files.trailTo_join (e := .keep) (by decide) hname hw hchild (.inr rfl) hcheck
  have hunlink : fs.isDirectory id = false → ∃ left, fs.unlink (Action.resolve w name) = (.ok (), left) ∧
      left.child? t.node (Path.ofString name) = none := fun hplain =>
    ⟨_, Files.unlink_of_parent hparent hname.short hchild hplain, Files.child?_leave _ _ _⟩
  have hrequest := (removal_of_kind (Action.resolve w name) node.metadata.kind).1
  by_cases hkind : node.metadata.kind = .directory
  · rw [if_pos hkind] at hrequest
    cases hlink : fs.link? id with
    | some target =>
      obtain ⟨left, hleft, hgone⟩ := hunlink (by rw [Files.isDirectory, Files.entries?_of_link? hlink]; rfl)
      exact ⟨left, turn_of_served hm hrequest ((Files.removeTree_of_link hkeep hlink).trans hleft), .inl hgone⟩
    | none =>
      have hfound := Files.trailTo_join (e := .follow) (by decide) hname hw hchild (.inl hlink) hcheck
      obtain rfl := Except.ok.inj (htrail.symm.trans hfound)
      obtain ⟨content, mode, modified⟩ := node
      cases content with
      | file | link | device => cases hkind
      | directory entries removed =>
        have hes := Files.entries?_eq_some_iff.2 ⟨removed, mode, modified, hnode⟩
        obtain ⟨left, hleft, hgone⟩ := Files.removeTree_of_directory hkeep hparent hchild hes
        refine ⟨left, turn_of_served hm hrequest hleft, ?_⟩
        rcases hgone with hgone | ⟨hempty, hmissing, hthins⟩
        · exact .inl hgone
        -- If the working path led there still, so would the way to the entry.
        rcases hthins.trailTo hw with hstill | hlost
        · have hparent' := Files.parent_join hname hstill ((hthins.isDirectory _).trans hdir) hcheck
          rw [hmissing] at hparent'
          cases hparent'
        · exact .inr ⟨hempty, hlost⟩
  · rw [if_neg hkind] at hrequest
    have hplain : fs.isDirectory id = false := by
      rw [Bool.eq_false_iff]
      intro hid
      obtain ⟨entries, hes⟩ := Option.isSome_iff_exists.1 hid
      obtain ⟨removed, mode, modified, hn⟩ := Files.entries?_eq_some_iff.1 hes
      have hlink : fs.link? id = none := by rw [Files.link?, hn]; rfl
      have hfound := Files.trailTo_join (e := .follow) (by decide) hname hw hchild (.inl hlink) hcheck
      obtain rfl := Except.ok.inj (htrail.symm.trans hfound)
      rw [Trail.node, hn] at hnode
      cases hnode
      exact hkind rfl
    obtain ⟨left, hleft, hgone⟩ := hunlink hplain
    exact ⟨left, turn_of_served hm hrequest hleft, .inl hgone⟩

/-- **What is shown of a directory can be removed** from there, if its metadata can be had, links followed: by `rm -r` if it
leads to a directory, by `rm` if it does not, and the other form changes nothing.  Afterwards the entry is gone; but a
directory is only emptied if the working path leads through what was in it, so that it leads nowhere then.  Where the
metadata cannot be had, neither form changes anything; but it can be of all that is no link and has a path that is not too
long. -/
theorem removes_entry (hslot : b.slot ≠ .full) (hw : b.files.trailTo .follow (Path.ofString w) = .ok t)
    (hname : Path.IsName (Path.ofString name)) (hchild : b.files.child? t.node (Path.ofString name) = some id) :
    (∀ m, b.files.metadata .follow (Action.resolve w name) = .ok m →
      (∃ left, Leads (run w (m.kind == .directory) [name]) b (.done (.ok ())) { b with files := left } ∧
        (left.child? t.node (Path.ofString name) = none ∨
          left.entries? id = some [] ∧ left.trailTo .follow (Path.ofString w) = .error (.system .notFound))) ∧
      ∃ message, Leads (run w (m.kind != .directory) [name]) b (.done (.error (.other message))) b) ∧
    (∀ f, b.files.metadata .follow (Action.resolve w name) = .error f → ∀ recursive, ∃ message,
      Leads (run w recursive [name]) b (.done (.error (.other message))) b) ∧
    (0 ∉ Path.ofString name → (Action.resolve w name).length ≤ Path.maxPath → b.files.link? id = none → ∀ node,
      b.files.node? id = some node → b.files.metadata .follow (Action.resolve w name) = .ok node.metadata) := by
  refine ⟨fun m hm => ⟨?_, ?_⟩, fun f hf recursive => ?_, fun hnul hlong hlink node hnode => ?_⟩
  · obtain ⟨left, hturn, hleft⟩ := turn_of_entry hw hname hchild hm
    have hrun := leads_run_singleton hslot w (m.kind == .directory) name
    rw [hturn] at hrun
    exact ⟨left, hrun, hleft⟩
  · obtain ⟨message, hrefused⟩ := (removal_of_kind (Action.resolve w name) m.kind).2
    exact ⟨_, leads_of_report hslot (turn_of_refused hm hrefused)⟩
  · have hreport : ∃ message, turn recursive (Action.resolve w name) b.files = (some message, b.files) := by
      rw [turn, hf]
      exact ⟨_, rfl⟩
    obtain ⟨message, hturn⟩ := hreport
    exact ⟨_, leads_of_report hslot hturn⟩
  · have hwork := Files.checkPath_eq_ok_iff.1 (Files.trailTo_eq_ok_iff.1 hw).1
    have hcheck : Files.checkPath (Action.resolve w name) = .ok () :=
      Files.checkPath_join hwork.1 hnul hname.nonempty hlong
    exact Files.metadata_eq_ok_iff.2
      ⟨_, node, Files.trailTo_join (by decide) hname hw hchild (.inl hlink) hcheck, hnode, rfl⟩

/-- A directory with a file in it is removed by its name from the root. -/
theorem removes_entry_directory : ∃ left, Leads (run "/" true ["d"]) { files := linked } (.done (.ok ())) { files := left } ∧
    left.child? 0 (Path.ofString "d") = none := by
  have hname : Path.IsName (Path.ofString "d") :=
    ⟨by decide, by decide, by decide, by decide, by decide⟩
  obtain ⟨left, hleads, hgone | ⟨-, hlost⟩⟩ := ((removes_entry (b := { files := linked }) (w := "/") (t := []) (by decide)
    rfl hname rfl).1 ⟨.directory, 0o755, 4096, 0⟩ rfl).1
  · exact ⟨left, hleads, hgone⟩
  · have hroot : left.trailTo .follow (Path.ofString "/") = .ok [] := rfl
    rw [hroot] at hlost
    cases hlost

/-- A link `l` to a name that is missing. -/
def dangling : Files where
  nodes := #[
    ⟨.directory [(Path.ofString "l", 1)] false, Files.directoryMode, 0⟩,
    ⟨.link (Path.ofString "no"), Files.linkMode, 0⟩]

/-- **A link that leads nowhere is shown and cannot be removed**, with `-r` or without. -/
theorem keeps_dangling_link :
    dangling.listing (Path.ofString "/") = .ok (0, [(Path.ofString "l", .link)]) ∧
    Leads (run "/" false ["l"]) { files := dangling }
      (.done (.error (.other "/l is not a valid name in the file system"))) { files := dangling } ∧
    Leads (run "/" true ["l"]) { files := dangling }
      (.done (.error (.other "/l is not a valid name in the file system"))) { files := dangling } :=
  ⟨rfl, leads_of_report (by decide) rfl, leads_of_report (by decide) rfl⟩

end Rm
end LineShell
