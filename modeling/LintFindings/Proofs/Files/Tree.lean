import LintFindings.Files.Tree
import LintFindings.Proofs.Steps

/-! What a tree holds at a place after bytes have gone to the end of a file. -/

namespace LintFindings

theorem Utf8.encode_append (front back : Text) :
    Utf8.encode (front ++ back) = Utf8.encode front ++ Utf8.encode back := List.flatMap_append

namespace Node

/-- The file at a place after some bytes; one that was not there has nothing before them. -/
def grown (added : Bytes) : Option Node → Node
  | some (.file bytes) => .file (bytes ++ added)
  | _ => .file added

theorem grown_grown (added more : Bytes) (node : Option Node) :
    grown more (some (grown added node)) = grown (added ++ more) node := by
  rcases node with _ | _ | _ <;> simp [grown]

theorem exists_grown (added : Bytes) (node : Option Node) :
    ∃ bytes, grown added node = .file bytes := by
  rcases node with _ | before | _
  · exact ⟨added, rfl⟩
  · exact ⟨before ++ added, rfl⟩
  · exact ⟨added, rfl⟩

end Node

namespace FileTree

variable {tree : FileTree} {place location : Location}

theorem lookup_filter_ne (nodes : List (Location × Node)) (other : location ≠ place) :
    (nodes.filter (fun (found, _) => found ≠ place)).lookup location = nodes.lookup location := by
  induction nodes with
  | nil => rfl
  | cons first rest ih =>
      obtain ⟨found, node⟩ := first
      by_cases same : found = place
      · have missed : (location == found) = false := by simpa [same] using other
        rw [List.lookup_cons, missed]
        simpa [same] using ih
      · simp only [List.filter_cons, same, ne_eq, not_false_eq_true, decide_true, if_true,
          List.lookup_cons]
        rw [← ih]

theorem node?_put (node : Node) (inside : place ≠ []) :
    (tree.put place node).node? location =
      if location = place then some node else tree.node? location := by
  by_cases same : location = place
  · simp [node?, put, same, inside]
  · have missed : (location == place) = false := by simpa using same
    rw [node?, node?, if_neg same, put, List.lookup_cons, missed, lookup_filter_ne _ same]

theorem node?_append (bytes : Bytes) (noFolder : tree.node? place ≠ some .folder) :
    (tree.append place bytes).node? location =
      if location = place then some (.grown bytes (tree.node? place)) else tree.node? location := by
  have inside : place ≠ [] := by
    rintro rfl
    exact noFolder rfl
  rw [append]
  split
  next before found => rw [node?_put _ inside, found, Node.grown]
  next missing =>
    rw [node?_put _ inside, Node.grown]
    intro before found
    exact missing before found

theorem noFolder_of_placeForFile {work : Location} {path : Text}
    (found : tree.placeForFile work path = .ok place) : tree.node? place ≠ some .folder := by
  have kept (step : Except PathFault Location) (ended : (step >>= fun location =>
      if tree.node? location = some .folder then throw .isFolder >>= fun _ : PUnit => pure location
      else pure location) = .ok place) : tree.node? place ≠ some .folder := by
    obtain ⟨location, -, ended⟩ := (bind_eq_ok _ _ _).mp ended
    split at ended
    next => cases ended
    next noFolder => rwa [← (pure_eq_ok _ _).mp ended] at noFolder
  by_cases stray : path.contains '\x00' = true
  · rw [placeForFile, if_pos stray] at found
    cases found
  rw [placeForFile, if_neg stray] at found
  dsimp only at found
  split at found
  next => cases found
  next =>
    split at found
    next => cases found
    next =>
      split at found
      next location _ => exact kept (pure location) found
      next =>
        split at found
        next => exact kept _ (by rw [bind_assoc]; exact found)
        next => exact kept (throw .missing) found
      next fault _ _ => exact kept (throw fault) found

end FileTree

end LintFindings
