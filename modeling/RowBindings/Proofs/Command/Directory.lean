import RowBindings.Command.Directory
import Mathlib.Data.List.Infix
import Mathlib.Data.String.Basic

/-!
# Writing a file

A file that is written has the new content and no other place has changed. The reason is that a place
can only be reached through directories: a new file makes no directory of what was none, since all of
the places above it were directories before.
-/

namespace RowBindings.Command

/-! ## Parts of a path -/

namespace Path

variable {text : String}

open String in
/-- Splitting goes on to the end of a text from where no slash follows. -/
theorem splitOnAux_of_notMem (before : List Char) {after : List Char} (h : '/' ∉ after) :
    (ofList (before ++ after)).splitOnAux "/" 0 ⟨utf8Len before⟩ 0 []
      = [ofList (before ++ after)] := by
  induction after generalizing before with
  | nil =>
    have hend := (atEnd_of_valid before []).2 rfl
    have hpart := extract_of_valid [] before []
    rw [List.nil_append, utf8Len_nil, Nat.zero_add] at hpart
    rw [splitOnAux, if_pos hend]
    exact congrArg (fun part => [part]) (hpart.trans (by rw [List.append_nil]))
  | cons c after ih =>
    obtain ⟨hc, hafter⟩ := not_or.1 (mt List.mem_cons.2 h)
    have hstep := ih (before ++ [c]) hafter
    rw [List.append_assoc, List.singleton_append, utf8Len_append, utf8Len_cons, utf8Len_nil,
      Nat.zero_add, ← next_of_valid before c after] at hstep
    have hend : ¬ Pos.Raw.atEnd (ofList (before ++ c :: after)) ⟨utf8Len before⟩ = true :=
      mt (atEnd_of_valid before (c :: after)).1 (List.cons_ne_nil c after)
    have hget : Pos.Raw.get (ofList (before ++ c :: after)) ⟨utf8Len before⟩ = c :=
      get_of_valid before (c :: after)
    have hslash : ¬ (c == Pos.Raw.get "/" 0) = true := fun heq => hc (eq_of_beq heq).symm
    rw [splitOnAux, if_neg hend, hget, if_neg hslash]
    exact hstep

/-- A text without slashes is the one part of its path, if it does not stay where it is. -/
theorem ofText_of_notMem (hslash : '/' ∉ text.toList) (hempty : text ≠ "")
    (hdot : text ≠ ".") : ofText text = [text] := by
  have hparts : text.splitOn "/" = [text] := by
    have hall := splitOnAux_of_notMem [] hslash
    rw [List.nil_append, String.ofList_toList] at hall
    exact hall
  have hhead : text.toList.head? ≠ some '/' := fun h => hslash (List.mem_of_head? h)
  simp [ofText, hparts, hhead, hempty, hdot]

/-- A text that is one part of a path and leads to a place below. -/
structure IsName (text : String) : Prop where
  slash_notMem : '/' ∉ text.toList
  ne_empty : text ≠ ""
  ne_dot : text ≠ "."
  ne_up : text ≠ up

theorem next_of_isName (h : IsName text) (path : Path) : path.next text = path ++ [text] := by
  have hroot : text ≠ root := by
    rintro rfl
    exact h.slash_notMem (by decide)
  rw [next, if_neg h.ne_up, if_neg hroot]

end Path

namespace Directory

variable {d files : Directory} {path place other : Path} {text content : String}

/-! ## Reaching a place -/

/-- Every place above a path is a directory. -/
def IsReachable (d : Directory) (path : Path) : Prop :=
  ∀ above, above <+: path → above ≠ path → d.entry above = some .directory

theorem isReachable_nil : d.IsReachable [] := by
  intro above habove hne
  exact absurd (List.prefix_nil.1 habove) hne

theorem IsReachable.concat (h : d.IsReachable path) (hdir : d.entry path = some .directory)
    (part : String) : d.IsReachable (path ++ [part]) := by
  intro above habove hne
  rcases List.prefix_concat_iff.1 habove with heq | habove
  · exact absurd heq hne
  · by_cases heq : above = path
    · rw [heq]
      exact hdir
    · exact h above habove heq

/-- What is above the parent of a path is above the path. -/
theorem IsReachable.parent (h : d.IsReachable path) : d.IsReachable path.dropLast := by
  intro above habove hne
  refine h above (habove.trans (List.dropLast_prefix path)) ?_
  intro heq
  rw [heq] at habove hne
  exact hne (habove.eq_of_length_le (List.dropLast_prefix path).length_le)

/-- Above the root there is only the start of all paths. -/
theorem IsReachable.root (h : d.IsReachable path) (hdir : d.entry path = some .directory) :
    d.IsReachable [Path.root] := by
  have hstart : d.entry [] = some .directory := by
    by_cases hpath : path = []
    · rw [← hpath]
      exact hdir
    · exact h [] List.nil_prefix (Ne.symm hpath)
  exact isReachable_nil.concat hstart Path.root

/-- One part further on from a directory, everything above is a directory. -/
theorem IsReachable.next (h : d.IsReachable path) (hdir : d.entry path = some .directory)
    (part : String) : d.IsReachable (path.next part) := by
  unfold Path.next
  split
  · split
    · exact h.concat hdir Path.up
    · split
      · exact h
      · exact h.parent
  · split
    · exact h.root hdir
    · exact h.concat hdir part

/-- Going along parts from a path reaches a place below directories only. -/
theorem IsReachable.walk {parts : List String} (h : d.IsReachable path)
    (hwalk : d.walk path parts = .ok place) : d.IsReachable place := by
  induction parts generalizing path with
  | nil =>
    cases hwalk
    exact h
  | cons part parts ih =>
    simp only [Directory.walk] at hwalk
    split at hwalk
    · exact ih (h.next ‹_› part) hwalk
    · cases hwalk
    · cases hwalk

theorem isReachable_of_follow (h : d.follow text = .ok place) : d.IsReachable place := by
  unfold follow at h
  split at h
  · cases h
  · exact isReachable_nil.walk h

/-- Where all directories are directories still, the same places are reached. -/
theorem walk_of_directories {parts : List String}
    (hdirs : ∀ path, d.entry path = some .directory → files.entry path = some .directory)
    (h : d.walk path parts = .ok place) : files.walk path parts = .ok place := by
  induction parts generalizing path with
  | nil => exact h
  | cons part parts ih =>
    simp only [walk] at h ⊢
    split at h
    · rw [hdirs path ‹_›]
      exact ih h
    · cases h
    · cases h

theorem follow_of_directories
    (hdirs : ∀ path, d.entry path = some .directory → files.entry path = some .directory)
    (h : d.follow text = .ok place) : files.follow text = .ok place := by
  unfold follow at h ⊢
  split at h
  · cases h
  · rename_i hempty
    rw [if_neg hempty]
    exact walk_of_directories hdirs h

/-- The working directory is a directory, and a name leads to its place there. -/
theorem follow_of_isName (h : Path.IsName text) (hstart : d.entry [] = some .directory) :
    d.follow text = .ok [text] := by
  have hempty : ¬ text.isEmpty = true := fun hempty => h.ne_empty (String.isEmpty_iff.1 hempty)
  rw [follow, if_neg hempty, Path.ofText_of_notMem h.slash_notMem h.ne_empty h.ne_dot, walk, hstart]
  simp only [walk, Path.next_of_isName h, List.nil_append]

/-- A file in the working directory is found by its name. -/
theorem find_of_isName (h : Path.IsName text) (hstart : d.entry [] = some .directory)
    (hentry : d.entry [text] = some (.file (some content))) :
    d.find text = .ok (.file (some content)) := by
  have hdirectory : Path.isOfDirectory text = false := by
    rw [Path.isOfDirectory, decide_eq_false_iff_not]
    exact fun hlast => h.slash_notMem (List.mem_of_getLast? hlast)
  unfold find
  rw [follow_of_isName h hstart]
  simp only [bind, Except.bind, hentry, hdirectory]
  rfl

@[inherit_doc find_of_isName]
theorem read_of_isName (h : Path.IsName text) (hstart : d.entry [] = some .directory)
    (hentry : d.entry [text] = some (.file (some content))) : d.read text = .ok content := by
  unfold read
  rw [find_of_isName h hstart hentry]
  rfl

/-! ## Writing at a place -/

/-- The files with one more, in the place of what was there. -/
def withFile (d : Directory) (place : Path) (content : String) : Directory where
  entries := (place, .file (some content)) :: d.entries.filter (·.1 != place)

theorem entry_withFile_self :
    (d.withFile place content).entry place = some (.file (some content)) := by
  simp only [entry, withFile, List.lookup_cons_self]

theorem lookup_filter_of_ne {α : Type} (entries : List (Path × α)) (hne : other ≠ place) :
    (entries.filter (·.1 != place)).lookup other = entries.lookup other := by
  induction entries with
  | nil => rfl
  | cons e entries ih =>
    obtain ⟨key, value⟩ := e
    by_cases hkey : key = place
    · -- this one is dropped, and it is not the one looked up
      simp [hkey, List.lookup_cons, ih, beq_eq_false_iff_ne.2 hne]
    · by_cases hother : other = key
      · simp [hkey, hother]
      · simp [hkey, List.lookup_cons, beq_eq_false_iff_ne.2 hother, ih]

/-- A file changes nothing about which other places entries lie below. -/
theorem any_withFile_of_not_below (habove : ¬ other <+: place) :
    (d.withFile place content).entries.any (fun e => other.isPrefixOf e.1)
      = d.entries.any fun e => other.isPrefixOf e.1 := by
  rw [Bool.eq_iff_iff, List.any_eq_true, List.any_eq_true]
  simp only [List.isPrefixOf_iff_prefix, withFile, List.mem_cons, List.mem_filter, bne_iff_ne]
  constructor
  · rintro ⟨e, rfl | ⟨he, -⟩, hbelow⟩
    · exact absurd hbelow habove
    · exact ⟨e, he, hbelow⟩
  · rintro ⟨e, he, hbelow⟩
    refine ⟨e, Or.inr ⟨he, ?_⟩, hbelow⟩
    intro hkey
    exact habove (hkey ▸ hbelow)

/-- A file below directories changes nothing at another place. -/
theorem entry_withFile_of_ne (hreach : d.IsReachable place) (hne : other ≠ place) :
    (d.withFile place content).entry other = d.entry other := by
  have hlookup : (d.withFile place content).entries.lookup other = d.entries.lookup other := by
    simp only [withFile, List.lookup_cons, beq_eq_false_iff_ne.2 hne]
    exact lookup_filter_of_ne d.entries hne
  unfold entry
  rw [hlookup]
  by_cases habove : other <+: place
  · -- a place above the file was a directory before
    have hdir := hreach other habove hne
    unfold entry at hdir
    rw [hdir]
    have hbelow : (d.withFile place content).entries.any (fun e => other.isPrefixOf e.1) = true :=
      List.any_eq_true.2 ⟨_, List.mem_cons_self, List.isPrefixOf_iff_prefix.2 habove⟩
    cases hsome : d.entries.lookup other with
    | some e =>
      rw [hsome] at hdir
      exact hdir
    | none => simp only [hbelow, Bool.or_true, if_true]
  · rw [any_withFile_of_not_below habove]

theorem write_of_follow (hfollow : d.follow text = .ok place) :
    d.write text content
      = match d.entry place with
        | some .directory => .error .isDirectory
        | some (.file _) =>
          if Path.isOfDirectory text then .error .notDirectory else .ok (d.withFile place content)
        | none =>
          if Path.isOfDirectory text then .error .isDirectory else .ok (d.withFile place content) := by
  unfold write
  rw [hfollow]
  rfl

/-- A text is written if its path leads to a place that is no directory, and is not written as that
of one. -/
theorem write_eq_ok_iff :
    d.write text content = .ok files
      ↔ ∃ place, d.follow text = .ok place ∧ d.entry place ≠ some .directory
        ∧ Path.isOfDirectory text = false ∧ files = d.withFile place content := by
  cases hfollow : d.follow text with
  | error e =>
    unfold write
    rw [hfollow]
    constructor
    · intro h
      cases h
    · rintro ⟨place, hplace, -⟩
      cases hplace
  | ok place =>
    rw [write_of_follow hfollow]
    simp only [Except.ok.injEq, exists_eq_left']
    cases d.entry place with
    | none => cases Path.isOfDirectory text <;> simp [@eq_comm _ files]
    | some e =>
      cases e with
      | directory => simp
      | file _ => cases Path.isOfDirectory text <;> simp [@eq_comm _ files]

/-- What is written can be read, and every other place is what it was. -/
theorem entry_of_write (h : d.write text content = .ok files) :
    ∃ place, d.follow text = .ok place
      ∧ files.entry place = some (.file (some content))
      ∧ ∀ other, other ≠ place → files.entry other = d.entry other := by
  obtain ⟨place, hplace, -, -, rfl⟩ := write_eq_ok_iff.1 h
  refine ⟨place, hplace, entry_withFile_self, ?_⟩
  intro other hne
  exact entry_withFile_of_ne (isReachable_of_follow hplace) hne

/-- The path that is written to is read as the text written. -/
theorem read_of_write (h : d.write text content = .ok files) : files.read text = .ok content := by
  obtain ⟨place, hplace, hentry, hdirectory, rfl⟩ := write_eq_ok_iff.1 h
  have hdirs (path : Path) (hdir : d.entry path = some .directory) :
      (d.withFile place content).entry path = some .directory := by
    have hne : path ≠ place := by
      rintro rfl
      exact hentry hdir
    rw [entry_withFile_of_ne (isReachable_of_follow hplace) hne, hdir]
  have hfollow := follow_of_directories hdirs hplace
  have hfind : (d.withFile place content).find text = .ok (.file (some content)) := by
    unfold find
    rw [hfollow]
    simp only [bind, Except.bind, entry_withFile_self, hdirectory]
    rfl
  unfold read
  rw [hfind]
  rfl

end Directory

end RowBindings.Command
