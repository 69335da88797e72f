import Mathlib.Data.List.Induction
import TenantStore.Files

namespace TenantStore

/-!
# Files in folders

A plain name in a folder stands for the parts of the folder and the name behind
them (`Files.locate_join`). So what happens to files of some names touches
neither files of other names nor folders (`Files.ChangesOnly`), and folders
that were once created stay (`Files.Opened`).
-/

namespace FilePath

/-! ## Parts of paths -/

/-- A name that is a part of its own: no slash, and none of the special parts. -/
structure IsPlain (name : String) : Prop where
  slashless : '/' ∉ name.toList
  nonempty : name ≠ ""
  notHere : name ≠ "."
  notUp : name ≠ ".."

/-- The characters between slashes. -/
def cut (chars : List Char) : List (List Char) :=
  chars.foldr
    (fun char parts =>
      match char, parts with
      | '/', parts => [] :: parts
      | char, part :: rest => (char :: part) :: rest
      | char, [] => [[char]])
    [[]]

/-- A path is cut at its slashes. -/
theorem parts_eq (path : FilePath) :
    parts path = (cut path.toList).map String.ofList :=
  rfl

/-- A slash at the front leaves an empty part before it. -/
theorem cut_slash (chars : List Char) : cut ('/' :: chars) = [] :: cut chars :=
  rfl

/-- Any other character belongs to the first part. -/
theorem cut_cons {char : Char} (unlike : char ≠ '/') (chars : List Char) :
    ∃ part rest, cut chars = part :: rest ∧ cut (char :: chars) = (char :: part) :: rest := by
  have nonempty : ∃ part rest, cut chars = part :: rest := by
    cases chars with
    | nil => exact ⟨[], [], rfl⟩
    | cons head tail =>
        simp only [cut, List.foldr_cons]
        split
        · exact ⟨_, _, rfl⟩
        · exact ⟨_, _, rfl⟩
        · exact ⟨_, _, rfl⟩
  obtain ⟨part, rest, found⟩ := nonempty
  refine ⟨part, rest, found, ?_⟩
  have step : ∀ other : Char, cut (other :: chars) =
      match other, cut chars with
      | '/', parts => [] :: parts
      | char, part :: rest => (char :: part) :: rest
      | char, [] => [[char]] :=
    fun _ => rfl
  rw [step, found]
  split
  · exact absurd rfl unlike
  · rename_i same
    cases same
    rfl
  · rename_i same
    cases same

/-- A text without a slash is one part. -/
theorem cut_slashless {chars : List Char} (slashless : '/' ∉ chars) : cut chars = [chars] := by
  induction chars with
  | nil => rfl
  | cons char rest inductionHypothesis =>
      rw [List.mem_cons, not_or] at slashless
      obtain ⟨part, others, found, step⟩ := cut_cons (Ne.symm slashless.1) rest
      rw [inductionHypothesis slashless.2] at found
      cases found
      exact step

/-- A slash separates the parts before it from those behind it. -/
theorem cut_append_slash (front back : List Char) :
    cut (front ++ '/' :: back) = cut front ++ cut back := by
  induction front with
  | nil => rfl
  | cons char rest inductionHypothesis =>
      rw [List.cons_append]
      by_cases slash : char = '/'
      · rw [slash, cut_slash, cut_slash, inductionHypothesis, List.cons_append]
      · obtain ⟨part, others, found, step⟩ := cut_cons slash rest
        obtain ⟨longer, allOthers, longerFound, longerStep⟩ :=
          cut_cons slash (rest ++ '/' :: back)
        rw [inductionHypothesis, found, List.cons_append] at longerFound
        cases longerFound
        rw [longerStep, step, List.cons_append]

/-- A path is followed part by part. -/
theorem follow_append (folder front back : List String) :
    follow folder (front ++ back) = follow (follow folder front) back := by
  induction front generalizing folder with
  | nil => rfl
  | cons part rest inductionHypothesis =>
      simp only [List.cons_append, follow]
      split
      · exact inductionHypothesis folder
      · split
        · exact inductionHypothesis folder.dropLast
        · exact inductionHypothesis (folder ++ [part])

/-- A plain name has one part: itself. -/
theorem IsPlain.parts_eq {name : String} (plain : IsPlain name) : parts name = [name] := by
  rw [FilePath.parts_eq, cut_slashless plain.slashless, List.map_singleton, String.ofList_toList]

/-- A plain name leads one step down. -/
theorem IsPlain.follow_eq {name : String} (plain : IsPlain name) (folder : List String) :
    follow folder [name] = folder ++ [name] := by
  simp [follow, plain.nonempty, plain.notHere, plain.notUp]

/-- A plain name does not begin at the root. -/
theorem IsPlain.isAbsolute_eq {name : String} (plain : IsPlain name) :
    isAbsolute name = false := by
  rw [isAbsolute, ← Bool.not_eq_true, String.startsWith_string_iff]
  intro starts
  exact plain.slashless (starts.subset List.mem_cons_self)

/-- The parts of a name in a folder, up to empty ones. -/
theorem parts_join_cases
    (folder : FilePath)
    {name : String}
    (plain : IsPlain name) :
    (folder = "" ∧ folder.join name = name) ∨
      (isAbsolute (folder.join name) = isAbsolute folder ∧
        ((folder.join name).parts = folder.parts ++ [name] ∨
          ∃ front, folder.parts = front ++ [""] ∧
            (folder.join name).parts = front ++ [name])) := by
  by_cases empty : folder = ""
  · subst empty
    left
    simp [join, plain.isAbsolute_eq]
  · right
    have chars : folder.toList ≠ [] := fun none => empty (String.toList_injective none)
    have absolute : ∀ rest : String, isAbsolute (folder ++ rest) = isAbsolute folder := by
      intro rest
      rw [isAbsolute, isAbsolute, Bool.eq_iff_iff, String.startsWith_string_iff,
        String.startsWith_string_iff, String.toList_append]
      obtain ⟨first, others, found⟩ := List.exists_cons_of_ne_nil chars
      rw [found]
      simp
    have nameParts : cut name.toList = [name.toList] := cut_slashless plain.slashless
    have unlike : (folder : String).isEmpty = false := by
      simpa using empty
    rw [join, plain.isAbsolute_eq, unlike, Bool.or_self, if_neg Bool.false_ne_true]
    split
    · rename_i ends
      rw [String.endsWith_eq_endsWith_toSlice, String.Slice.endsWith_string_iff] at ends
      obtain ⟨front, split⟩ := ends
      have folderChars : folder.toList = front ++ ['/'] := by
        simpa using split.symm
      refine ⟨absolute name, .inr ⟨(cut front).map String.ofList, ?_, ?_⟩⟩
      · rw [FilePath.parts_eq, folderChars, cut_append_slash, List.map_append]
        rfl
      · rw [FilePath.parts_eq, String.toList_append, folderChars, List.append_assoc,
          List.singleton_append, cut_append_slash, nameParts, List.map_append,
          List.map_singleton, String.ofList_toList]
    · have joined : (folder ++ "/" ++ name).toList = folder.toList ++ '/' :: name.toList := by
        simp
      refine ⟨?_, .inl ?_⟩
      · rw [String.append_assoc]
        exact absolute ("/" ++ name)
      · rw [FilePath.parts_eq, FilePath.parts_eq, joined, cut_append_slash, nameParts,
          List.map_append, List.map_singleton, String.ofList_toList]

/-! ## Plain forms -/

/-- What stands before the last part. -/
def before (parts : List String) : String :=
  if parts.isEmpty then "/" else ofParts parts ++ "/"

/-- The last part stands behind the others and a separator, if there are others. -/
theorem intercalate_concat (separator : List Char) (parts : List (List Char)) (last : List Char) :
    separator.intercalate (parts ++ [last]) =
      (if parts.isEmpty then [] else separator.intercalate parts ++ separator) ++ last := by
  induction parts with
  | nil => simp [List.intercalate]
  | cons part rest inductionHypothesis =>
      cases rest with
      | nil => simp [List.intercalate]
      | cons next others =>
          have step : ∀ tail : List (List Char), separator.intercalate (part :: next :: tail) =
              part ++ (separator ++ separator.intercalate (next :: tail)) := by
            intro tail
            simp [List.intercalate]
          rw [List.cons_append, List.cons_append, step, step, ← List.cons_append,
            inductionHypothesis]
          simp

/-- A name in a folder is the path of the folder, a slash and the name. -/
theorem ofParts_concat (parts : List String) (name : String) :
    ofParts (parts ++ [name]) = before parts ++ name := by
  apply String.toList_injective
  cases parts with
  | nil => simp [ofParts, before]
  | cons part rest =>
      simp only [ofParts, before, String.toList_append, String.toList_intercalate,
        List.map_append, List.map_cons, List.map_nil, intercalate_concat, List.isEmpty_cons,
        if_neg Bool.false_ne_true, List.append_assoc]

/-- What is in a folder has a longer path than the folder. -/
theorem length_ofParts_lt (parts : List String) {name : String} (nonempty : name ≠ "") :
    (ofParts parts).length < (ofParts (parts ++ [name])).length := by
  have positive : 0 < name.length := by
    rw [Nat.pos_iff_ne_zero]
    intro none
    exact nonempty (String.length_eq_zero_iff.mp none)
  rw [ofParts_concat, before, String.length_append]
  split
  · rename_i empty
    rw [List.isEmpty_iff.mp empty]
    show 1 < 1 + name.length
    omega
  · rw [String.length_append]
    omega

/-- A folder has no longer path than what is below it. -/
theorem length_ofParts_le {front parts : List String} (within : front <+: parts) :
    (ofParts front).length ≤ (ofParts parts).length := by
  obtain ⟨back, rfl⟩ := within
  induction back using List.reverseRecOn with
  | nil => exact Nat.le_of_eq (by rw [List.append_nil])
  | append_singleton rest last inductionHypothesis =>
      rw [← List.append_assoc, ofParts_concat, before, String.length_append]
      split
      · rename_i empty
        rw [List.isEmpty_iff.mp empty] at inductionHypothesis
        have root : (ofParts []).length = "/".length := rfl
        omega
      · rw [String.length_append]
        omega

/-- No folder on the way stands under the plain form of a name in the last folder. -/
theorem ofParts_ne_concat
    {front parts : List String}
    (within : front <+: parts)
    {name : String}
    (nonempty : name ≠ "") :
    ofParts front ≠ ofParts (parts ++ [name]) := by
  intro same
  have short := length_ofParts_le within
  have long := length_ofParts_lt parts nonempty
  rw [← same] at long
  omega

/-- What stands behind the last slash is the same if everything is. -/
theorem eq_of_append_slash
    {leftFront rightFront left right : List Char}
    (leftSlashless : '/' ∉ left)
    (rightSlashless : '/' ∉ right)
    (same : leftFront ++ '/' :: left = rightFront ++ '/' :: right) :
    left = right := by
  have parts := congrArg cut same
  rw [cut_append_slash, cut_append_slash, cut_slashless leftSlashless,
    cut_slashless rightSlashless] at parts
  exact (List.append_inj_right' parts rfl |> List.cons.inj).1

/-- What stands before a name ends with a slash. -/
theorem before_ends (parts : List String) : ∃ front, (before parts).toList = front ++ ['/'] := by
  rw [before]
  split
  · exact ⟨[], rfl⟩
  · exact ⟨(ofParts parts).toList, by simp⟩

/-- Files of different names never share a plain form, whatever folders they stand in. -/
theorem ofParts_concat_ne
    (leftParts rightParts : List String)
    {left right : String}
    (leftPlain : IsPlain left)
    (rightPlain : IsPlain right)
    (unlike : left ≠ right) :
    ofParts (leftParts ++ [left]) ≠ ofParts (rightParts ++ [right]) := by
  intro same
  obtain ⟨leftFront, leftEnds⟩ := before_ends leftParts
  obtain ⟨rightFront, rightEnds⟩ := before_ends rightParts
  have chars := congrArg String.toList same
  rw [ofParts_concat, ofParts_concat, String.toList_append, String.toList_append, leftEnds,
    rightEnds, List.append_assoc, List.append_assoc] at chars
  exact unlike (String.toList_injective
    (eq_of_append_slash leftPlain.slashless rightPlain.slashless chars))

end FilePath

namespace Files

open FilePath (IsPlain ofParts)

variable {files before after : Files}

/-- A plain name in a folder is located one step below it. -/
theorem locate_join
    (files : Files)
    (folder : FilePath)
    {name : String}
    (plain : IsPlain name) :
    files.locate (folder.join name) = files.locate folder ++ [name] := by
  rcases FilePath.parts_join_cases folder plain with
    ⟨rfl, same⟩ | ⟨absolute, parts | ⟨front, folderParts, parts⟩⟩
  · have nowhere : files.locate "" = files.base := rfl
    rw [same, nowhere, locate, plain.isAbsolute_eq, if_neg Bool.false_ne_true, plain.parts_eq,
      plain.follow_eq]
  · rw [locate, locate, absolute, parts, FilePath.follow_append, plain.follow_eq]
  · rw [locate, locate, absolute, parts, folderParts, FilePath.follow_append,
      FilePath.follow_append, plain.follow_eq]
    rfl

/-! ## Folders -/

/-- Every folder on the way to some parts is there. -/
def FoldersTo (files : Files) (parts : List String) : Prop :=
  ∀ front, front ≠ [] → front <+: parts → files.nodes.get? (ofParts front) = some .folder

/-- A folder is there, with every folder that it stands in. -/
def Opened (files : Files) (folder : FilePath) : Prop :=
  files.FoldersTo (files.locate folder)

/-- Nothing but missing folders on the way to some parts was added. -/
structure AddsFolders (parts : List String) (before after : Files) : Prop where
  base : after.base = before.base
  kept : ∀ key node, before.nodes.get? key = some node → after.nodes.get? key = some node
  others : ∀ key, (∀ front, front <+: parts → key ≠ ofParts front) →
    after.nodes.get? key = before.nodes.get? key

/-- Adding no folder is adding folders. -/
theorem AddsFolders.refl (parts : List String) (files : Files) :
    AddsFolders parts files files :=
  ⟨rfl, fun _ _ found => found, fun _ _ => rfl⟩

/-- Below the root a node is looked up under its path. -/
theorem nodeAt?_concat (files : Files) (parts : List String) (name : String) :
    files.nodeAt? (parts ++ [name]) = files.nodes.get? (ofParts (parts ++ [name])) := by
  rw [nodeAt?, if_neg]
  simp

/-- Creating a folder adds the folders on the way to it, and they are all there in the end. -/
theorem addsFolders_of_createBelow
    {folder rest : List String}
    (run : files.createBelow folder rest = .ok after)
    (there : files.FoldersTo folder) :
    AddsFolders (folder ++ rest) files after ∧ after.FoldersTo (folder ++ rest) := by
  induction rest generalizing files folder with
  | nil =>
      cases run
      rw [List.append_nil]
      exact ⟨.refl folder after, there⟩
  | cons part rest inductionHypothesis =>
      have extended : ∀ {other : Files}, other.FoldersTo folder →
          other.nodes.get? (ofParts (folder ++ [part])) = some .folder →
            other.FoldersTo (folder ++ [part]) := by
        intro other others last front nonempty within
        rcases List.prefix_concat_iff.mp within with rfl | earlier
        · exact last
        · exact others front nonempty earlier
      have parts_eq : folder ++ part :: rest = folder ++ [part] ++ rest := by simp
      rw [createBelow] at run
      simp only [nodeAt?_concat] at run
      rw [parts_eq]
      split at run
      · rename_i found
        exact inductionHypothesis run (extended there found)
      · cases run
      · rename_i missing
        have put_get : ∀ key, (files.put (folder ++ [part]) .folder).nodes.get? key =
            if ofParts (folder ++ [part]) = key then some .folder else files.nodes.get? key :=
          fun key => Dict.get?_insert _ _ _ _
        have putThere : (files.put (folder ++ [part]) .folder).FoldersTo folder := by
          intro front nonempty within
          rw [put_get]
          split
          · rfl
          · exact there front nonempty within
        obtain ⟨adds, foldersTo⟩ := inductionHypothesis run
          (extended putThere (by rw [put_get, if_pos rfl]))
        refine ⟨⟨adds.base, ?_, ?_⟩, foldersTo⟩
        · intro key node found
          refine adds.kept key node ?_
          rw [put_get, if_neg, found]
          rintro rfl
          rw [missing] at found
          cases found
        · intro key apart
          rw [adds.others key apart, put_get, if_neg]
          exact fun same => apart _ (List.prefix_append _ _) same.symm

/-- Nothing is created where the folders are there. -/
theorem createBelow_eq
    {folder rest : List String}
    (there : files.FoldersTo (folder ++ rest)) :
    files.createBelow folder rest = .ok files := by
  induction rest generalizing folder with
  | nil => rfl
  | cons part rest inductionHypothesis =>
      have parts_eq : folder ++ part :: rest = folder ++ [part] ++ rest := by simp
      rw [parts_eq] at there
      have here : files.nodeAt? (folder ++ [part]) = some .folder := by
        rw [nodeAt?_concat]
        exact there _ (by simp) (List.prefix_append _ _)
      rw [createBelow]
      simp only [here]
      exact inductionHypothesis there

/-- Where a path leads depends on the working folder only. -/
theorem locate_eq_of_base (same : after.base = before.base) (path : FilePath) :
    after.locate path = before.locate path := by
  rw [locate, locate, same]

/-- Creating a folder adds what is missing of the way to it. -/
theorem addsFolders_of_createFolders
    {folder : FilePath}
    (run : files.createFolders folder = .ok after) :
    AddsFolders (files.locate folder) files after ∧ after.Opened folder := by
  have nothing : files.FoldersTo [] := by
    intro front nonempty within
    exact absurd (List.prefix_nil.mp within) nonempty
  obtain ⟨adds, foldersTo⟩ := addsFolders_of_createBelow run nothing
  rw [List.nil_append] at adds foldersTo
  refine ⟨adds, ?_⟩
  rw [Opened, locate_eq_of_base adds.base]
  exact foldersTo

/-- A folder that is there does not have to be created. -/
theorem Opened.createFolders_eq {folder : FilePath} (opened : files.Opened folder) :
    files.createFolders folder = .ok files :=
  createBelow_eq opened

/-! ## Names in a folder -/

/-- What is under a plain name in a folder is the node at its parts. -/
theorem node?_join
    (files : Files)
    (folder : FilePath)
    {name : String}
    (plain : IsPlain name) :
    files.node? (folder.join name) =
      files.nodes.get? (ofParts (files.locate folder ++ [name])) := by
  rw [node?, files.locate_join folder plain, nodeAt?_concat]

/-- Creating folders leaves every file that is there. -/
theorem AddsFolders.node?_eq
    {parts : List String}
    (adds : AddsFolders parts before after)
    {folder : FilePath}
    {name : String}
    (plain : IsPlain name)
    {node : FileNode}
    (found : before.node? (folder.join name) = some node) :
    after.node? (folder.join name) = some node := by
  rw [node?_join _ _ plain] at found ⊢
  rw [locate_eq_of_base adds.base]
  exact adds.kept _ _ found

/-- Creating a folder adds nothing in it. -/
theorem AddsFolders.node?_within
    {folder : FilePath}
    (adds : AddsFolders (before.locate folder) before after)
    {name : String}
    (plain : IsPlain name) :
    after.node? (folder.join name) = before.node? (folder.join name) := by
  rw [node?_join _ _ plain, node?_join _ _ plain, locate_eq_of_base adds.base]
  exact adds.others _ (fun front within =>
    (FilePath.ofParts_ne_concat within plain.nonempty).symm)

/-- Nothing but files of some names in a folder was changed. -/
structure ChangesOnly
    (folder : FilePath)
    (names : List String)
    (before after : Files) : Prop where
  base : after.base = before.base
  others : ∀ key, (∀ name ∈ names, key ≠ ofParts (before.locate folder ++ [name])) →
    after.nodes.get? key = before.nodes.get? key

namespace ChangesOnly

variable {folder : FilePath} {names : List String}

theorem refl (folder : FilePath) (names : List String) (files : Files) :
    ChangesOnly folder names files files :=
  ⟨rfl, fun _ _ => rfl⟩

/-- What two changes in turn touch is what one of them may touch. -/
theorem trans
    {middle : Files}
    (first : ChangesOnly folder names before middle)
    (second : ChangesOnly folder names middle after) :
    ChangesOnly folder names before after where
  base := second.base.trans first.base
  others key apart := by
    have here : ∀ name ∈ names, key ≠ ofParts (middle.locate folder ++ [name]) := by
      rw [locate_eq_of_base first.base]
      exact apart
    rw [second.others key here, first.others key apart]

/-- A change touches no more than a longer list of names. -/
theorem mono
    {more : List String}
    (changes : ChangesOnly folder names before after)
    (within : names ⊆ more) :
    ChangesOnly folder more before after :=
  ⟨changes.base, fun key apart =>
    changes.others key (fun name member => apart name (within member))⟩

/-- Files of other names stay, in every folder. -/
theorem node?_eq
    (changes : ChangesOnly folder names before after)
    (plainNames : ∀ name ∈ names, IsPlain name)
    (other : FilePath)
    {name : String}
    (plain : IsPlain name)
    (apart : name ∉ names) :
    after.node? (other.join name) = before.node? (other.join name) := by
  rw [node?_join _ _ plain, node?_join _ _ plain, locate_eq_of_base changes.base]
  refine changes.others _ ?_
  intro changed member
  exact FilePath.ofParts_concat_ne _ _ plain (plainNames changed member)
    (fun same => apart (same ▸ member))

/-- Folders stay. -/
theorem opened
    (changes : ChangesOnly folder names before after)
    (plainNames : ∀ name ∈ names, IsPlain name)
    (opened : before.Opened folder) :
    after.Opened folder := by
  intro front some within
  rw [locate_eq_of_base changes.base] at within
  rw [changes.others _ (fun name member =>
    FilePath.ofParts_ne_concat within (plainNames name member).nonempty)]
  exact opened front some within

end ChangesOnly

/-- Putting something under a name in a folder changes nothing else. -/
theorem put_changesOnly
    (files : Files)
    (folder : FilePath)
    {name : String}
    (plain : IsPlain name)
    (node : FileNode) :
    ChangesOnly folder [name] files (files.put (files.locate (folder.join name)) node) := by
  refine ⟨rfl, fun key apart => ?_⟩
  have unlike := apart name (List.mem_singleton.mpr rfl)
  rw [put, files.locate_join folder plain, Dict.get?_insert, if_neg (Ne.symm unlike)]

/-- A node that is put under a name is found there. -/
theorem node?_put
    (files : Files)
    (folder : FilePath)
    {name : String}
    (plain : IsPlain name)
    (node : FileNode) :
    (files.put (files.locate (folder.join name)) node).node? (folder.join name) =
      some node := by
  have located : (files.put (files.locate (folder.join name)) node).locate folder =
      files.locate folder := rfl
  rw [node?_join _ _ plain, located, put, files.locate_join folder plain, Dict.get?_insert,
    if_pos rfl]

/-! ### Writing and renaming -/

/-- What a file is written over has a folder around it and is no folder. -/
theorem write_eq_ok
    {path : FilePath}
    {bytes : ByteArray}
    (run : files.write path bytes = .ok after) :
    files.isFolder (files.locate path) = false ∧
      after = files.put (files.locate path) (.file bytes) := by
  rw [write] at run
  split at run
  · cases run
  · rename_i possible
    cases run
    simp only [Bool.or_eq_true, not_or, Bool.not_eq_true] at possible
    exact ⟨possible.1, rfl⟩

/-- A write fails for one reason only. -/
theorem write_eq_error
    {path : FilePath}
    {bytes : ByteArray}
    {problem : Problem}
    (run : files.write path bytes = .error problem) :
    problem = .files := by
  rw [write] at run
  split at run <;> cases run
  rfl

/-- What is renamed moves from the one path to the other. -/
theorem rename_eq_ok
    {source target : FilePath}
    (run : files.rename source target = .ok after) :
    ∃ node, files.node? source = some node ∧
      after =
        ({ files with
          nodes := files.nodes.erase (FilePath.ofParts (files.locate source)) } : Files).put
            (files.locate target) node := by
  rw [rename] at run
  split at run
  · cases run
  · rename_i node found
    dsimp only at run
    split at run <;> cases run
    exact ⟨node, found, rfl⟩

/-- A rename fails for one reason only. -/
theorem rename_eq_error
    {source target : FilePath}
    {problem : Problem}
    (run : files.rename source target = .error problem) :
    problem = .files := by
  rw [rename] at run
  split at run
  · cases run
    rfl
  · dsimp only at run
    split at run <;> cases run
    rfl

/-- Writing a file changes nothing else. -/
theorem write_changesOnly
    {folder : FilePath}
    {name : String}
    (plain : IsPlain name)
    {bytes : ByteArray}
    (run : files.write (folder.join name) bytes = .ok after) :
    ChangesOnly folder [name] files after := by
  obtain ⟨_, rfl⟩ := write_eq_ok run
  exact files.put_changesOnly folder plain (.file bytes)

/-- A file that was written holds the bytes. -/
theorem node?_write
    {folder : FilePath}
    {name : String}
    (plain : IsPlain name)
    {bytes : ByteArray}
    (run : files.write (folder.join name) bytes = .ok after) :
    after.node? (folder.join name) = some (.file bytes) := by
  obtain ⟨_, rfl⟩ := write_eq_ok run
  exact files.node?_put folder plain (.file bytes)

/-- Renaming a file changes what stands under the two names. -/
theorem rename_changesOnly
    {folder : FilePath}
    {source target : String}
    (sourcePlain : IsPlain source)
    (targetPlain : IsPlain target)
    (run : files.rename (folder.join source) (folder.join target) = .ok after) :
    ChangesOnly folder [source, target] files after := by
  obtain ⟨node, _, rfl⟩ := rename_eq_ok run
  refine ⟨rfl, fun key apart => ?_⟩
  have unlikeSource := apart source (by simp)
  have unlikeTarget := apart target (by simp)
  rw [put, files.locate_join folder targetPlain, files.locate_join folder sourcePlain,
    Dict.get?_insert, if_neg (Ne.symm unlikeTarget), Dict.get?_erase,
    if_neg (Ne.symm unlikeSource)]

/-- What was renamed is found under its new name. -/
theorem node?_rename
    {folder : FilePath}
    {source target : String}
    (targetPlain : IsPlain target)
    {node : FileNode}
    (found : files.node? (folder.join source) = some node)
    (run : files.rename (folder.join source) (folder.join target) = .ok after) :
    after.node? (folder.join target) = some node := by
  obtain ⟨other, otherFound, rfl⟩ := rename_eq_ok run
  rw [found, Option.some.injEq] at otherFound
  subst otherFound
  exact node?_put { files with nodes := _ } folder targetPlain node

end Files

end TenantStore
