import MineTeleop.Library.Program
import Mathlib.Data.List.AList
import Mathlib.Data.List.Infix
import Mathlib.Data.List.Lex
import Mathlib.Data.List.SplitOn
import Mathlib.Data.String.Basic

/-!
# Files on a storage that may fail

Files under paths without links, the directories on the way to them, and what a program does with
them. Every operation asks the storage: it may refuse, leave a part of what it was to write, or
copy other bytes than it read. The world keeps the list of the paths whose files were written,
replaced or removed.

Proved here, for any storage:

* `extension_suffix`, `walk_grown`: what the names and the walks along them have in common;
* `Confined`: an operation changes no file but those of its scope, and no directory goes away;
* `Does.bind`, `Does.widen`: programs that do what they are for unless the storage fails.
-/

namespace MineTeleop.Files
open Programs

/-! ## Names -/

/-- The last dot starts the extension, unless it is the first character. -/
def extensionLength (name : String) : ℕ :=
  let tail := name.toList.reverse.takeWhile (· ≠ '.')
  if name = ".." ∨ name.toList.length < tail.length + 2 then 0 else tail.length + 1

def extension (name : String) : String :=
  String.ofList (name.toList.drop (name.toList.length - extensionLength name))

def stem (name : String) : String :=
  String.ofList (name.toList.take (name.toList.length - extensionLength name))

def replaceExtension (name replacement : String) : String := stem name ++ replacement

theorem extension_suffix (name : String) : (extension name).toList <:+ name.toList := by
  rw [extension, String.toList_ofList]
  exact List.drop_suffix _ _

/-- Names are different if the shorter of their endings does not end the longer one. -/
theorem ne_of_endings {name name' : String} {ending ending' : List Char}
    (h : ending <:+ name.toList) (h' : ending' <:+ name'.toList)
    (hlength : ending.length ≤ ending'.length) (hne : ¬ending <:+ ending') : name ≠ name' := by
  rintro rfl
  exact hne (List.suffix_of_suffix_length_le h h' hlength)

/-! ## Paths -/

/-- A path without links: the directories from the root, and the last name. -/
structure FilePath where
  parent : List String
  name : String
deriving DecidableEq

namespace FilePath

def components (p : FilePath) : List String := p.parent ++ [p.name]

def text (p : FilePath) : String := "/" ++ "/".intercalate p.components

/-- A name with more behind it, in the same directory. -/
def suffixed (p : FilePath) (suffix : String) : FilePath := ⟨p.parent, p.name ++ suffix⟩

theorem components_injective {p q : FilePath} (h : p.components = q.components) : p = q := by
  obtain ⟨parent, name⟩ := p
  obtain ⟨hparent, hname⟩ := List.append_inj' h rfl
  cases hparent
  cases hname
  rfl

/-- The order of paths: part by part. -/
def Before (p q : FilePath) : Prop := p.components ≤ q.components

instance : DecidableRel Before := fun p q =>
  inferInstanceAs (Decidable (p.components ≤ q.components))

instance : Std.Total Before := ⟨fun p q => le_total p.components q.components⟩

instance : IsTrans FilePath Before := ⟨fun _ _ _ => le_trans⟩

theorem Before.antisymm {p q : FilePath} (h : Before p q) (h' : Before q p) : p = q :=
  components_injective (le_antisymm h h')

end FilePath

/-- The part of two directories that they share, counted from the root. -/
def shared : List String → List String → ℕ
  | part :: root, part' :: directory => if part = part' then shared root directory + 1 else 0
  | _, _ => 0

theorem prefix_of_shared {root directory : List String} (h : root.length ≤ shared root directory) :
    root <+: directory := by
  induction root generalizing directory with
  | nil => exact List.nil_prefix
  | cons part root ih =>
    cases directory with
    | nil => simp [shared] at h
    | cons part' directory =>
      by_cases hpart : part = part'
      · subst hpart
        rw [shared, if_pos rfl] at h
        exact (List.cons_prefix_cons).mpr ⟨rfl, ih (by simpa using h)⟩
      · simp [shared, hpart] at h

/-- Of canonical paths: up to what they share, and down to the file. -/
def relative (root : List String) (p : FilePath) : FilePath where
  parent := List.replicate (root.length - shared root p.parent) ".." ++
    p.parent.drop (shared root p.parent)
  name := p.name

/-! ## Trees -/

abbrev Content := List UInt8

structure File where
  content : Content
  readable : Bool
deriving DecidableEq

structure Tree where
  files : AList fun _ : FilePath => File
  directories : List (List String)

namespace Tree

variable (t : Tree)

def find? (p : FilePath) : Option File := t.files.lookup p

def read (p : FilePath) : Option Content :=
  ((t.find? p).filter fun file => file.readable).map File.content

def size (p : FilePath) : ℕ := ((t.find? p).map fun file => file.content.length).getD 0

def isRegularFile (p : FilePath) : Bool := (t.find? p).isSome

def put (p : FilePath) (file : File) : Tree := { t with files := t.files.insert p file }

def erase (p : FilePath) : Tree := { t with files := t.files.erase p }

/-- Other bytes in a file that stays as readable as it is; a new one is readable. -/
def rewrite (p : FilePath) (content : Content) : Tree :=
  t.put p ⟨content, ((t.find? p).map File.readable).getD true⟩

def isDirectory (d : List String) : Bool := d ∈ t.directories

def addDirectory (d : List String) : Tree := { t with directories := d :: t.directories }

/-- From a directory along the parts of a path to the file that they name. -/
def walk : List String → List String → Option FilePath
  | _, [] => none
  | directory, [last] =>
    if last = "" ∨ last = "." ∨ last = ".." then none else some ⟨directory, last⟩
  | directory, part :: next :: rest =>
    if part = "" ∨ part = "." then walk directory (next :: rest)
    else if part = ".." then walk directory.dropLast (next :: rest)
    else if t.isDirectory (directory ++ [part]) then walk (directory ++ [part]) (next :: rest)
    else none

/-- What `directory / text` names; an absolute text does not care for the directory. -/
def resolve (directory : List String) (text : String) : Option FilePath :=
  t.walk (if text.toList.head? = some '/' then [] else directory)
    ((text.toList.splitOn '/').map String.ofList)

variable {t}

theorem find?_put (p q : FilePath) (file : File) :
    (t.put p file).find? q = if q = p then some file else t.find? q := by
  unfold find? put
  by_cases hq : q = p
  · subst hq
    rw [if_pos rfl, AList.lookup_insert]
  · rw [if_neg hq, AList.lookup_insert_ne hq]

theorem find?_erase (p q : FilePath) :
    (t.erase p).find? q = if q = p then none else t.find? q := by
  unfold find? erase
  by_cases hq : q = p
  · subst hq
    rw [if_pos rfl, AList.lookup_erase]
  · rw [if_neg hq, AList.lookup_erase_ne hq]

theorem read_eq_some {p : FilePath} {content : Content} :
    t.read p = some content ↔ ∃ file, t.find? p = some file ∧ file.readable = true ∧
      file.content = content := by
  simp [read, Option.filter_eq_some_iff, and_assoc]

theorem isDirectory_iff {d : List String} : t.isDirectory d = true ↔ d ∈ t.directories :=
  decide_eq_true_iff

theorem isDirectory_grown {t t' : Tree} (hgrown : ∀ d ∈ t.directories, d ∈ t'.directories)
    {d : List String} (h : t.isDirectory d = true) : t'.isDirectory d = true :=
  isDirectory_iff.mpr (hgrown d (isDirectory_iff.mp h))

/-- More directories never take a walk's end away. -/
theorem walk_grown {t t' : Tree} (hgrown : ∀ d ∈ t.directories, d ∈ t'.directories)
    {parts directory : List String} {p : FilePath} (h : t.walk directory parts = some p) :
    t'.walk directory parts = some p := by
  fun_induction walk t directory parts with
  | case1 => cases h
  | case2 => cases h
  | case3 directory last hlast => rwa [walk, if_neg hlast]
  | case4 directory part next rest hpart ih =>
    rw [walk, if_pos hpart]
    exact ih h
  | case5 directory next rest hpart ih =>
    rw [walk, if_neg hpart, if_pos rfl]
    exact ih h
  | case6 directory part next rest hpart hup hdir ih =>
    rw [walk, if_neg hpart, if_neg hup, if_pos (isDirectory_grown hgrown hdir)]
    exact ih h
  | case7 => cases h

end Tree

/-! ## The storage -/

/-- How the storage serves a request. -/
inductive Outcome where
  | succeeds
  /-- A write may have left a part behind. -/
  | fails (what : String) (left : Option Content)
  /-- A copy that is reported complete and is not. -/
  | garbles (left : Content)

structure World where
  tree : Tree
  /-- For the requests to come; every later one succeeds. -/
  outcomes : List Outcome
  /-- The paths whose files were written, replaced or removed. -/
  written : List FilePath

abbrev Storage (α : Type) := Program World String α

/-- Change what is under the paths. -/
def World.change (w : World) (paths : List FilePath) (f : Tree → Tree) : World :=
  { w with tree := f w.tree, written := w.written ++ paths }

def served : Storage Outcome := do
  let w ← get
  modify fun w => { w with outcomes := w.outcomes.tail }
  pure (w.outcomes.headD .succeeds)

/-- Go on unless the storage refuses. -/
def permit : Storage Unit := do
  match ← served with
  | .fails what _ => throw what
  | _ => pure ()

def createDirectory (d : List String) : Storage Unit := do
  let w ← get
  if w.tree.isDirectory d then pure ()
  else do
    permit
    modify fun w => w.change [] (·.addDirectory d)

/-- `create_directories`: from the root on, what is not there. -/
def createDirectories (d : List String) : Storage Unit := d.inits.forM createDirectory

def remove (p : FilePath) : Storage Unit := do
  permit
  modify fun w => w.change [p] (·.erase p)

/-- `remove` with an error code that nobody looks at. -/
def removeIgnored (p : FilePath) : Storage Unit := tryCatch (remove p) fun _ => pure ()

/-- The bytes of a file that may be read. -/
def contentOf (p : FilePath) (cannot : String) : Storage Content := do
  let w ← get
  match w.tree.read p with
  | some content => pure content
  | none => throw cannot

/-- `copy_file` with `overwrite_existing`. -/
def copyFile (source destination : FilePath) : Storage Unit := do
  let content ← contentOf source
    ("filesystem error: cannot copy file [" ++ source.text ++ "] [" ++ destination.text ++ "]")
  match ← served with
  | .succeeds => modify fun w => w.change [destination] (·.put destination ⟨content, true⟩)
  | .garbles left => modify fun w => w.change [destination] (·.put destination ⟨left, true⟩)
  | .fails what none => throw what
  | .fails what (some left) => do
    modify fun w => w.change [destination] (·.put destination ⟨left, true⟩)
    throw what

/-- Open a file for writing, which empties it. -/
def openTruncated (p : FilePath) (cannot : String) : Storage Unit := do
  match ← served with
  | .fails _ _ => throw cannot
  | _ => modify fun w => w.change [p] (·.rewrite p [])

def writeOut (p : FilePath) (content : Content) (cannot : String) : Storage Unit := do
  match ← served with
  | .fails _ left => do
    modify fun w => w.change [p] (·.rewrite p (left.getD []))
    throw cannot
  | _ => modify fun w => w.change [p] (·.rewrite p content)

def rename (p q : FilePath) : Storage Unit := do
  let w ← get
  match w.tree.find? p with
  | none => throw ("filesystem error: cannot rename [" ++ p.text ++ "] [" ++ q.text ++ "]")
  | some file => do
    permit
    modify fun w => w.change [p, q] fun tree => (tree.erase p).put q file

/-! ## What a program may touch -/

/-- The files and the directories that a program may make. -/
structure Scope where
  files : FilePath → Prop
  directories : List String → Prop

/-- From `w` to `w'` with changes inside the scope only. -/
structure Confined (scope : Scope) (w w' : World) : Prop where
  kept : ∀ p, ¬scope.files p → w'.tree.find? p = w.tree.find? p
  logged : ∃ more, w'.written = w.written ++ more ∧ ∀ p ∈ more, scope.files p
  grown : ∀ d ∈ w.tree.directories, d ∈ w'.tree.directories
  made : ∀ d ∈ w'.tree.directories, d ∈ w.tree.directories ∨ scope.directories d
  spent : w'.outcomes <:+ w.outcomes

variable {scope scope' : Scope} {w w' w'' : World} {p q : FilePath} {α β : Type}

namespace Confined

theorem refl (scope : Scope) (w : World) : Confined scope w w where
  kept _ _ := rfl
  logged := ⟨[], (List.append_nil _).symm, fun _ hp => nomatch hp⟩
  grown _ hd := hd
  made _ hd := .inl hd
  spent := List.suffix_rfl

theorem trans (h : Confined scope w w') (h' : Confined scope w' w'') :
    Confined scope w w'' where
  kept p hp := (h'.kept p hp).trans (h.kept p hp)
  logged := by
    obtain ⟨more, heq, hmore⟩ := h.logged
    obtain ⟨more', heq', hmore'⟩ := h'.logged
    refine ⟨more ++ more', by rw [heq', heq, List.append_assoc], fun p hp => ?_⟩
    exact (List.mem_append.mp hp).elim (hmore p) (hmore' p)
  grown d hd := h'.grown d (h.grown d hd)
  made d hd := (h'.made d hd).elim (h.made d) .inr
  spent := h'.spent.trans h.spent

theorem mono (h : Confined scope w w') (hfiles : ∀ p, scope.files p → scope'.files p)
    (hdirectories : ∀ d, scope.directories d → scope'.directories d) : Confined scope' w w' where
  kept p hp := h.kept p fun hscope => hp (hfiles p hscope)
  logged := h.logged.imp fun _ hmore => ⟨hmore.1, fun p hp => hfiles p (hmore.2 p hp)⟩
  grown := h.grown
  made d hd := (h.made d hd).imp id (hdirectories d)
  spent := h.spent

theorem faultless (h : Confined scope w w') (hw : w.outcomes = []) : w'.outcomes = [] :=
  List.suffix_nil.mp (hw ▸ h.spent)

/-- Changes of files in the scope. -/
theorem change {paths : List FilePath} {f : Tree → Tree} (hpaths : ∀ p ∈ paths, scope.files p)
    (hfind : ∀ p, p ∉ paths → (f w.tree).find? p = w.tree.find? p)
    (hdirectories : (f w.tree).directories = w.tree.directories) :
    Confined scope w (w.change paths f) where
  kept p hp := hfind p fun hmem => hp (hpaths p hmem)
  logged := ⟨paths, rfl, hpaths⟩
  grown _ hd := hdirectories ▸ hd
  made _ hd := .inl (hdirectories ▸ hd)
  spent := List.suffix_rfl

theorem served (scope : Scope) (w : World) :
    Confined scope w { w with outcomes := w.outcomes.tail } where
  kept _ _ := rfl
  logged := ⟨[], (List.append_nil _).symm, fun _ hp => nomatch hp⟩
  grown _ hd := hd
  made _ hd := .inl hd
  spent := List.tail_suffix _

end Confined

/-- Nothing happened but requests to the storage. -/
structure Untouched (w w' : World) : Prop where
  tree : w'.tree = w.tree
  written : w'.written = w.written
  spent : w'.outcomes <:+ w.outcomes

theorem Untouched.confined (h : Untouched w w') :
    Confined scope w w' where
  kept p _ := congrArg (·.find? p) h.tree
  logged := ⟨[], by rw [h.written, List.append_nil], fun _ hp => nomatch hp⟩
  grown d hd := h.tree.symm ▸ hd
  made d hd := .inl (h.tree ▸ hd)
  spent := h.spent

/-! ## What a program does unless the storage fails -/

/-- The program stays in its scope and ends in `Q`; it throws only when the storage failed, or
for the reason given. -/
def Does (scope : Scope) (reason : Prop) (p : Storage α) (w : World) (Q : α → World → Prop) :
    Prop :=
  Ensures p w (fun a w' => Confined scope w w' ∧ Q a w') fun _ w' =>
    Confined scope w w' ∧ (w.outcomes = [] → reason)

variable {reason : Prop} {Q : α → World → Prop} {Q' : β → World → Prop}

namespace Does

/-- What comes after may end outside the scope, unless it throws. -/
theorem andThen {p : Storage α} {f : α → Storage β} (hp : Does scope reason p w Q)
    (hf : ∀ a w', Confined scope w w' → Q a w' → Ensures (f a) w' Q' fun _ w'' =>
      Confined scope w' w'' ∧ (w'.outcomes = [] → reason)) :
    Ensures (p >>= f) w Q' fun _ w'' => Confined scope w w'' ∧ (w.outcomes = [] → reason) := by
  refine Ensures.bind hp fun a w' h => ?_
  refine (hf a w' h.1 h.2).mono (fun _ _ h' => h') fun _ w'' h' => ?_
  exact ⟨h.1.trans h'.1, fun hw => h'.2 (h.1.faultless hw)⟩

theorem bind {p : Storage α} {f : α → Storage β} (hp : Does scope reason p w Q)
    (hf : ∀ a w', Confined scope w w' → Q a w' → Does scope reason (f a) w' Q') :
    Does scope reason (p >>= f) w Q' :=
  hp.andThen fun a w' hconfined hQ => (hf a w' hconfined hQ).mono
    (fun _ _ h => ⟨hconfined.trans h.1, h.2⟩) fun _ _ h => h

theorem mono {p : Storage α} (hp : Does scope reason p w Q) {Q' : α → World → Prop}
    {reason' : Prop} (hreason : reason → reason') (hQ : ∀ a w', Confined scope w w' → Q a w' → Q' a w') :
    Does scope reason' p w Q' :=
  Ensures.mono hp (fun a w' h => ⟨h.1, hQ a w' h.1 h.2⟩) fun _ _ h => ⟨h.1, hreason ∘ h.2⟩

/-- A larger scope, with what the smaller one still tells. -/
theorem widen {p : Storage α} (hp : Does scope reason p w Q)
    (hfiles : ∀ p, scope.files p → scope'.files p)
    (hdirectories : ∀ d, scope.directories d → scope'.directories d) :
    Does scope' reason p w fun a w' => Confined scope w w' ∧ Q a w' :=
  Ensures.mono hp (fun _ _ h => ⟨h.1.mono hfiles hdirectories, h⟩) fun _ _ h =>
    ⟨h.1.mono hfiles hdirectories, h.2⟩

theorem within {p : Storage α} (hp : Does scope reason p w Q) :
    Ensures p w (fun _ => Confined scope w) fun _ => Confined scope w :=
  Ensures.mono hp (fun _ _ h => h.1) fun _ _ h => h.1

theorem pure {a : α} (h : Q a w) : Does scope reason (pure a : Storage α) w Q := ⟨.refl scope w, h⟩

/-- The storage is asked first. -/
theorem ask {f : Outcome → Storage α}
    (hf : ∀ outcome, outcome = .succeeds ∨ outcome ∈ w.outcomes →
      Ensures (f outcome) { w with outcomes := w.outcomes.tail }
        (fun a w' => Confined scope w w' ∧ Q a w') fun _ w' =>
          Confined scope w w' ∧ (outcome = .succeeds → reason)) :
    Does scope reason (served >>= f) w Q := by
  have hserved : w.outcomes.headD .succeeds = .succeeds ∨
      w.outcomes.headD .succeeds ∈ w.outcomes := by
    cases w.outcomes with
    | nil => exact .inl rfl
    | cons outcome rest => exact .inr List.mem_cons_self
  have hhead : w.outcomes = [] → w.outcomes.headD .succeeds = .succeeds := fun hw => by
    rw [hw]
    rfl
  unfold Does served
  simp only [ensures_bind, ensures_get, ensures_modify, ensures_pure]
  exact (hf _ hserved).mono (fun _ _ h => h) fun _ _ h => ⟨h.1, fun hw => h.2 (hhead hw)⟩

/-- The world is looked at first. -/
theorem look {f : World → Storage α} (hf : Does scope reason (f w) w Q) :
    Does scope reason (get >>= f) w Q := by
  unfold Does
  rw [ensures_bind, ensures_get]
  exact hf

/-- A failure of the storage is no reason of its own. -/
theorem settle {p : Storage α} (h : Does scope (reason ∨ w.outcomes ≠ []) p w Q) :
    Does scope reason p w Q :=
  Ensures.mono h (fun _ _ h => h) fun _ _ h =>
    ⟨h.1, fun hw => (h.2 hw).resolve_right fun hne => hne hw⟩

theorem throw {what : String} (h : w.outcomes = [] → reason) :
    Does scope reason (throw what : Storage α) w Q :=
  ⟨.refl scope w, h⟩

end Does

theorem permit_ensures : Ensures permit w (fun _ => Untouched w) fun _ w' =>
    Untouched w w' ∧ w.outcomes ≠ [] := by
  have hserved : Untouched w { w with outcomes := w.outcomes.tail } :=
    ⟨rfl, rfl, List.tail_suffix _⟩
  obtain ⟨tree, outcomes, written⟩ := w
  cases outcomes with
  | nil => exact hserved
  | cons outcome rest =>
    cases outcome with
    | succeeds => exact hserved
    | garbles left => exact hserved
    | fails what left => exact ⟨hserved, List.cons_ne_nil _ _⟩

theorem permit_does : Does scope reason permit w fun _ w' => w'.tree = w.tree :=
  permit_ensures.mono (fun _ _ h => ⟨h.confined, h.tree⟩) fun _ _ h =>
    ⟨h.1.confined, fun hw => absurd hw h.2⟩

/-- Files in these places, and no directories. -/
def only (paths : List FilePath) : Scope := ⟨(· ∈ paths), fun _ => False⟩

theorem Confined.changes {paths : List FilePath} {f : Tree → Tree}
    (hw : Confined (only paths) w w')
    (hfind : ∀ p, p ∉ paths → (f w'.tree).find? p = w'.tree.find? p)
    (hdirectories : (f w'.tree).directories = w'.tree.directories) :
    Confined (only paths) w (w'.change paths f) :=
  hw.trans (.change (fun _ hp => hp) hfind hdirectories)

theorem Does.change {paths : List FilePath} {f : Tree → Tree} {Q : Unit → World → Prop}
    (hfind : ∀ p, p ∉ paths → (f w.tree).find? p = w.tree.find? p)
    (hdirectories : (f w.tree).directories = w.tree.directories) (h : Q () (w.change paths f)) :
    Does (only paths) reason (modify fun w => w.change paths f) w Q :=
  ⟨(Confined.refl _ w).changes hfind hdirectories, h⟩

theorem find?_put_of_notMem {t : Tree} {file : File} (h : q ∉ [p]) :
    (t.put p file).find? q = t.find? q := by
  rw [Tree.find?_put, if_neg (by simpa using h)]

theorem createDirectory_does {d : List String} (hd : scope.directories d) :
    Does scope reason (createDirectory d) w fun _ w' => w'.tree.files = w.tree.files := by
  refine Does.look ?_
  refine Ensures.ite (fun _ => ⟨.refl scope w, rfl⟩) fun _ => ?_
  refine permit_does.bind fun _ w' hconfined htree => ?_
  rw [← htree]
  refine ⟨⟨fun _ _ => rfl, ⟨[], rfl, fun _ hp => nomatch hp⟩,
    fun _ => List.mem_cons_of_mem _, fun d' hd' => ?_, List.suffix_rfl⟩, rfl⟩
  exact (List.mem_cons.mp hd').elim (fun heq => .inr (heq ▸ hd)) .inl

theorem createDirectories_does {d : List String}
    (hd : ∀ d', d' <+: d → scope.directories d') :
    Does scope reason (createDirectories d) w fun _ w' => w'.tree.files = w.tree.files := by
  have hall : ∀ ds : List (List String), (∀ d' ∈ ds, scope.directories d') → ∀ w,
      Does scope reason (ds.forM createDirectory) w fun _ w' => w'.tree.files = w.tree.files := by
    intro ds
    induction ds with
    | nil => exact fun _ w => .pure rfl
    | cons d' ds ih =>
      intro hds w
      have hfirst : Does scope reason (createDirectory d') w fun _ w' =>
          w'.tree.files = w.tree.files := createDirectory_does (hds d' List.mem_cons_self)
      refine hfirst.bind fun _ w' _ hfiles => ?_
      refine (ih (fun d'' h => hds d'' (List.mem_cons_of_mem _ h)) w').mono id ?_
      exact fun _ w'' _ hfiles' => hfiles'.trans hfiles
  exact hall _ (fun d' h => hd d' ((List.mem_inits _ _).mp h)) w

theorem remove_does : Does (only [p]) reason (remove p) w fun _ _ => True := by
  refine permit_does.bind fun _ w' _ _ => .change (fun q hq => ?_) rfl trivial
  rw [Tree.find?_erase, if_neg (by simpa using hq)]

theorem removeIgnored_does : Does (only [p]) reason (removeIgnored p) w fun _ _ => True := by
  have hremove : Does (only [p]) True (remove p) w fun _ _ => True := remove_does
  exact Ensures.tryCatch hremove fun _ _ h => ⟨h.1, trivial⟩

theorem contentOf_does {cannot : String} :
    Does scope (w.tree.read p = none) (contentOf p cannot) w fun content w' =>
      w' = w ∧ w.tree.read p = some content := by
  refine Does.look ?_
  cases hread : w.tree.read p with
  | some content => exact .pure ⟨rfl, rfl⟩
  | none => exact .throw fun _ => rfl

/-- What the copy leaves is what was read, or what the storage made of it. -/
theorem copyFile_does {source destination : FilePath} :
    Does (only [destination]) (w.tree.read source = none) (copyFile source destination) w
      fun _ w' => ∃ content left, w.tree.read source = some content ∧
        w'.tree.find? destination = some ⟨left, true⟩ ∧
        (left = content ∨ .garbles left ∈ w.outcomes) := by
  refine contentOf_does.bind fun content w' _ hw => ?_
  obtain ⟨rfl, hread⟩ := hw
  have hput : ∀ left, Confined (only [destination]) w' (({ w' with outcomes := w'.outcomes.tail } :
      World).change [destination] (·.put destination ⟨left, true⟩)) :=
    fun left => .changes (.served _ w') (fun q hq => find?_put_of_notMem hq) rfl
  have hfound : ∀ left, (w'.tree.put destination ⟨left, true⟩).find? destination =
      some ⟨left, true⟩ := fun left => by rw [Tree.find?_put, if_pos rfl]
  refine Does.ask fun outcome houtcome => ?_
  cases outcome with
  | succeeds => exact ⟨hput content, content, content, hread, hfound content, .inl rfl⟩
  | garbles left =>
    exact ⟨hput left, content, left, hread, hfound left, .inr (houtcome.resolve_left nofun)⟩
  | fails what left =>
    cases left with
    | none => exact ⟨.served _ w', (nomatch ·)⟩
    | some left => exact ⟨hput left, (nomatch ·)⟩

theorem openTruncated_does {cannot : String} :
    Does (only [p]) reason (openTruncated p cannot) w fun _ _ => True := by
  have hput : Confined (only [p]) w (({ w with outcomes := w.outcomes.tail } : World).change [p]
      (·.rewrite p [])) :=
    .changes (.served _ w) (fun q hq => find?_put_of_notMem hq) rfl
  refine Does.ask fun outcome _ => ?_
  cases outcome with
  | succeeds => exact ⟨hput, trivial⟩
  | garbles left => exact ⟨hput, trivial⟩
  | fails what left => exact ⟨.served _ w, (nomatch ·)⟩

theorem writeOut_does {content : Content} {cannot : String} :
    Does (only [p]) reason (writeOut p content cannot) w fun _ w' =>
      (w'.tree.find? p).map File.content = some content := by
  have hput : ∀ bytes, Confined (only [p]) w (({ w with outcomes := w.outcomes.tail } :
      World).change [p] (·.rewrite p bytes)) :=
    fun bytes => .changes (.served _ w) (fun q hq => find?_put_of_notMem hq) rfl
  have hfound : ((w.tree.rewrite p content).find? p).map File.content = some content := by
    rw [Tree.rewrite, Tree.find?_put, if_pos rfl]
    rfl
  refine Does.ask fun outcome _ => ?_
  cases outcome with
  | succeeds => exact ⟨hput content, hfound⟩
  | garbles left => exact ⟨hput content, hfound⟩
  | fails what left => exact ⟨hput _, (nomatch ·)⟩

/-- Either the file is under its new name, or nothing happened. -/
theorem rename_ensures {file : File} (hfile : w.tree.find? p = some file) :
    Ensures (rename p q) w
      (fun _ w' => Confined (only [p, q]) w w' ∧ w'.tree.find? q = some file) fun _ w' =>
        Confined (only []) w w' ∧ w.outcomes ≠ [] := by
  unfold rename
  rw [ensures_bind, ensures_get, hfile]
  have hpermit : Does (only []) False permit w fun _ w' => w'.tree = w.tree := permit_does
  refine Ensures.bind hpermit fun _ w' h => ?_
  have hwide : Confined (only [p, q]) w w' := h.1.mono (fun _ hp => nomatch hp) fun _ hd => hd
  refine ⟨hwide.changes (f := fun tree => (tree.erase p).put q file) (fun r hr => ?_) rfl, ?_⟩
  · obtain ⟨hrp, hrq⟩ : r ≠ p ∧ r ≠ q := by simpa using hr
    rw [Tree.find?_put, if_neg hrq, Tree.find?_erase, if_neg hrp]
  · show ((w'.tree.erase p).put q file).find? q = some file
    rw [Tree.find?_put, if_pos rfl]

theorem rename_does {file : File} (hfile : w.tree.find? p = some file) :
    Does (only [p, q]) reason (rename p q) w fun _ w' => w'.tree.find? q = some file :=
  (rename_ensures hfile).mono (fun _ _ h => h) fun _ _ h =>
    ⟨h.1.mono (fun _ hp => nomatch hp) fun _ hd => hd, fun hw => absurd hw h.2⟩

end MineTeleop.Files
