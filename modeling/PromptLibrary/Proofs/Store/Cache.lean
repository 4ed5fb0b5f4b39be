import PromptLibrary.Analysis
import PromptLibrary.Proofs.Conversion.Stored
import Mathlib.Logic.Function.Basic
/-!
# Stores over whole runs

Several stores work on files that change between their operations.  What a store holds is settled by
its history alone: the mapping that the first operation found that asked for one when the file was
good (`stores_run`).  Before that an operation answers from the file as it is, and afterwards from
this mapping, whatever the files have become.

Every operation but the question whether a store is loaded begins with a load, and leaves the store
as that load does, be it that a key is missing or that a client fails (`run_of_reads`).
-/

namespace PromptLibrary.Proofs.Store.Cache

variable {ι σ : Type}

/-! ## Operations and their answers -/

/-- What a store can be asked for.  An analysis comes with its client and the state of the service
that the client works on. -/
inductive Operation (σ : Type) where
  | load
  | aload
  | getTemplates
  | get (key : Text)
  | keys
  | contains (key : Text)
  | isLoaded
  | render (key : Text) (values : Mapping Value)
  | analyze (settings : Settings) (now : Text) (q : Inquiry) (client : Option (Client σ))
      (service : σ)
  | runAnalysis (settings : Settings) (now key input : Text) (client : Option (Client σ))
      (model : Option String) (service : σ)

inductive Answer (σ : Type) where
  | mapping (r : Except LoadError (Mapping Text))
  | body (r : Except LookupError Text)
  | names (r : Except LoadError (List Text))
  | membership (r : Except LoadError Bool)
  | loaded (b : Bool)
  | envelope (r : Except AnalysisError Envelope) (service : σ)

/-- An analysis loads the store before it renders, and rendering asks the store again. -/
def analyzeLoaded (settings : Settings) (now : Text) (q : Inquiry) (client : Option (Client σ))
    (service : σ) (tree : Tree) (s : Store) : Answer σ × Store :=
  let ((r, after), service) :=
    (Analysis.analyze settings now tree (s.load tree).2 q client).run service
  (.envelope r service, after)

namespace Operation

/-- What a store answers, and the store afterwards. -/
def run (tree : Tree) (s : Store) : Operation σ → Answer σ × Store
  | load => (.mapping (s.load tree).1, (s.load tree).2)
  | aload => (.mapping (s.load tree).1, (s.load tree).2)
  | getTemplates => (.mapping (s.load tree).1, (s.load tree).2)
  | get key => (.body (s.get tree key).1, (s.get tree key).2)
  | keys => (.names (s.keys tree).1, (s.keys tree).2)
  | contains key => (.membership (s.contains tree key).1, (s.contains tree key).2)
  | isLoaded => (.loaded s.isLoaded, s)
  | render key values => (.body (s.render tree key values).1, (s.render tree key values).2)
  | analyze settings now q client service =>
    analyzeLoaded settings now q client service tree s
  | runAnalysis settings now key input client model service =>
    analyzeLoaded settings now (Analysis.textInquiry key input model) client service tree s

def reads : Operation σ → Bool
  | isLoaded => false
  | _ => true

end Operation

/-- The body of a template in what a load has found. -/
def lookup (found : Except LoadError (Mapping Text)) (key : Text) : Except LookupError Text :=
  match found with
  | .error e => .error (.load e)
  | .ok m =>
    match m.get? key with
    | none => .error (.notFound key)
    | some body => .ok body

/-- What an analysis comes to, if this is what came of rendering its template. -/
def conclude (settings : Settings) (now : Text) (q : Inquiry) (client : Option (Client σ))
    (service : σ) : Except LookupError Text → Answer σ
  | .error (.load e) =>
    if e.isTold then .envelope (.ok (Analysis.unavailable q.key e.message)) service
    else .envelope (.error (.load e)) service
  | .error (.notFound key) =>
    .envelope (.ok (Analysis.unavailable q.key (LookupError.notFound key).message)) service
  | .ok prompt =>
    match client with
    | none => .envelope (.ok (Analysis.rendered now q.key prompt)) service
    | some c =>
      let (r, service) := (Analysis.send settings now q c prompt).run service
      .envelope r service

/-- What an operation answers from what a load has found, and from nothing else. -/
def Operation.answer (found : Except LoadError (Mapping Text)) : Operation σ → Answer σ
  | load => .mapping found
  | aload => .mapping found
  | getTemplates => .mapping found
  | get key => .body (lookup found key)
  | keys => .names (found.map Mapping.keys)
  | contains key => .membership (found.map (·.contains key))
  | isLoaded => .loaded found.toBool
  | render key values => .body ((lookup found key).map (Template.render · values))
  | analyze settings now q client service =>
    conclude settings now q client service
      ((lookup found q.key).map (Template.render · q.values))
  | runAnalysis settings now key input client model service =>
    let q := Analysis.textInquiry key input model
    conclude settings now q client service
      ((lookup found q.key).map (Template.render · q.values))

/-! ## One operation -/

variable {tree : Tree} {s : Store} {op : Operation σ} {m : Mapping Text} {e : LoadError}

theorem load_of_loaded (h : s.loaded = some m) : s.load tree = (.ok m, s) := by
  simp only [Store.load, h]

theorem load_of_error (h : s.loaded = none) (he : readTemplates tree s.path = .error e) :
    s.load tree = (.error e, s) := by
  simp only [Store.load, h, he]

theorem load_of_ok (h : s.loaded = none) (hm : readTemplates tree s.path = .ok m) :
    s.load tree = (.ok m, { s with loaded := some m }) := by
  simp only [Store.load, h, hm]

theorem load_of_unloaded {store : Store} (tree : Tree) (h : store.loaded = none) :
    (store.load tree).1 = readTemplates tree store.path ∧
      (store.load tree).2 = { store with loaded := (store.load tree).1.toOption } := by
  cases hread : readTemplates tree store.path with
  | ok m =>
    rw [load_of_ok h hread]
    exact ⟨rfl, rfl⟩
  | error e =>
    rw [load_of_error h hread]
    refine ⟨rfl, ?_⟩
    show store = { store with loaded := none }
    rw [← h]

theorem load_load : (s.load tree).2.load tree = s.load tree := by
  cases h : s.loaded with
  | some m => rw [load_of_loaded h, load_of_loaded h]
  | none =>
    cases hm : readTemplates tree s.path with
    | error e => rw [load_of_error h hm, load_of_error h hm]
    | ok m =>
      rw [load_of_ok h hm]
      exact load_of_loaded rfl

theorem get_eq (key : Text) :
    s.get tree key = (lookup (s.load tree).1 key, (s.load tree).2) := by
  unfold Store.get lookup
  generalize s.load tree = found
  obtain ⟨r, after⟩ := found
  cases r with
  | error e => rfl
  | ok m =>
    simp only
    cases m.get? key with
    | none => rfl
    | some body => rfl

theorem render_eq (key : Text) (values : Mapping Value) : s.render tree key values =
    ((lookup (s.load tree).1 key).map (Template.render · values), (s.load tree).2) := by
  unfold Store.render
  rw [get_eq]

theorem analyzeLoaded_eq (settings : Settings) (now : Text) (q : Inquiry)
    (client : Option (Client σ)) (service : σ) :
    analyzeLoaded settings now q client service tree s =
      (conclude settings now q client service
        ((lookup (s.load tree).1 q.key).map (Template.render · q.values)), (s.load tree).2) := by
  unfold analyzeLoaded Analysis.analyze
  rw [render_eq, load_load]
  generalize (lookup (s.load tree).1 q.key).map (Template.render · q.values) = rendered
  unfold conclude
  cases rendered with
  | error e =>
    cases e with
    | notFound key => rfl
    | load e => cases h : e.isTold <;> simp [h] <;> rfl
  | ok prompt =>
    cases client with
    | none => rfl
    | some c => rfl

/-- **An operation that asks for the mapping loads it and answers from what the load has found.** -/
theorem run_of_reads (h : op.reads = true) :
    op.run tree s = (op.answer (s.load tree).1, (s.load tree).2) := by
  cases op with
  | isLoaded => simp [Operation.reads] at h
  | get key => simp only [Operation.run, Operation.answer, get_eq]
  | render key values => simp only [Operation.run, Operation.answer, render_eq]
  | analyze settings now q client service => exact analyzeLoaded_eq settings now q client service
  | runAnalysis settings now key input client model service =>
    exact analyzeLoaded_eq settings now (Analysis.textInquiry key input model) client service
  | _ => rfl

theorem run_of_loaded (h : s.loaded = some m) : op.run tree s = (op.answer (.ok m), s) := by
  cases hop : op.reads with
  | true => rw [run_of_reads hop, load_of_loaded h]
  | false =>
    cases op with
    | isLoaded =>
      unfold Operation.run Operation.answer Store.isLoaded
      rw [h]
      rfl
    | _ => simp [Operation.reads] at hop

theorem run_of_not_reads (h : op.reads = false) : (op.run tree s).2 = s := by
  cases op with
  | isLoaded => rfl
  | _ => simp [Operation.reads] at h

/-! ## Runs -/

/-- Something that happens: files are written or removed, which leaves a tree of any kind, or a
store is asked for something. -/
inductive Event (ι σ : Type) where
  | files (tree : Tree)
  | operate (i : ι) (op : Operation σ)

structure System (ι : Type) where
  tree : Tree
  stores : ι → Store

/-- Stores that have not been asked for anything. -/
def System.fresh (paths : ι → Path) (tree : Tree) : System ι :=
  ⟨tree, fun i => { path := paths i }⟩

/-- Whether an event could matter to a store. -/
def Event.concerns [DecidableEq ι] (i : ι) : Event ι σ → Bool
  | files _ => true
  | operate j _ => j = i

variable [DecidableEq ι]

def System.step (S : System ι) : Event ι σ → System ι
  | .files tree => { S with tree }
  | .operate i op =>
    { S with stores := Function.update S.stores i (op.run S.tree (S.stores i)).2 }

def System.run (S : System ι) (events : List (Event ι σ)) : System ι :=
  events.foldl System.step S

/-- What the first operation of a store finds that asks for the mapping when its file is good. -/
def firstLoad (path : Path) (i : ι) : Tree → List (Event ι σ) → Option (Mapping Text)
  | _, [] => none
  | _, .files tree :: events => firstLoad path i tree events
  | tree, .operate j op :: events =>
    if j = i ∧ op.reads = true then
      match readTemplates tree path with
      | .ok m => some m
      | .error _ => firstLoad path i tree events
    else firstLoad path i tree events

variable {S T : System ι} {i j : ι} {event : Event ι σ} {events : List (Event ι σ)}

theorem stores_operate_self : (S.step (.operate i op)).stores i = (op.run S.tree (S.stores i)).2 :=
  Function.update_self _ _ _

theorem stores_operate_other (h : j ≠ i) : (S.step (.operate i op)).stores j = S.stores j :=
  Function.update_of_ne h _ _

theorem tree_operate : (S.step (.operate i op)).tree = S.tree :=
  rfl

theorem stores_step_of_loaded (h : (S.stores i).loaded = some m) :
    (S.step event).stores i = S.stores i := by
  cases event with
  | files tree => rfl
  | operate j op =>
    by_cases hj : i = j
    · subst hj
      rw [stores_operate_self, run_of_loaded h]
    · exact stores_operate_other hj

theorem stores_run_of_loaded (h : (S.stores i).loaded = some m) :
    (S.run events).stores i = S.stores i := by
  induction events generalizing S with
  | nil => rfl
  | cons event events ih =>
    have hstep := @stores_step_of_loaded _ _ m _ S i event h
    have hrun := @ih (S.step event) (by rw [hstep]; exact h)
    exact hrun.trans hstep

theorem firstLoad_cons (S : System ι) (path : Path) :
    firstLoad path i S.tree (event :: events) =
      (firstLoad path i S.tree [event]).or (firstLoad path i (S.step event).tree events) := by
  cases event with
  | files tree => rfl
  | operate j op =>
    simp only [firstLoad, tree_operate]
    split
    · cases readTemplates S.tree path with
      | error e => rfl
      | ok m => rfl
    · rfl

/-- One event loads a store if it is an operation that asks for the mapping of a good file. -/
theorem stores_step (h : (S.stores i).loaded = none) : (S.step event).stores i =
    { S.stores i with loaded := firstLoad (S.stores i).path i S.tree [event] } := by
  have hkept : S.stores i = { S.stores i with loaded := none } := by rw [← h]
  cases event with
  | files tree => exact hkept
  | operate j op =>
    simp only [firstLoad]
    split
    · next hj =>
      obtain ⟨rfl, hop⟩ := hj
      rw [stores_operate_self, run_of_reads hop]
      cases hm : readTemplates S.tree (S.stores j).path with
      | error e =>
        rw [load_of_error h hm]
        exact hkept
      | ok m => rw [load_of_ok h hm]
    · next hj =>
      refine Eq.trans ?_ hkept
      by_cases hi : i = j
      · subst hi
        have hop : op.reads = false := by simpa using hj
        rw [stores_operate_self, run_of_not_reads hop]
      · exact stores_operate_other hi

/-- **What a store holds after a run** is what its first successful load has found. -/
theorem stores_run (h : (S.stores i).loaded = none) : (S.run events).stores i =
    { S.stores i with loaded := firstLoad (S.stores i).path i S.tree events } := by
  induction events generalizing S with
  | nil =>
    show S.stores i = { S.stores i with loaded := none }
    rw [← h]
  | cons event events ih =>
    have hstep := @stores_step _ _ _ S i event h
    rw [firstLoad_cons]
    cases hm : firstLoad (S.stores i).path i S.tree [event] with
    | none =>
      have hkept : (S.step event).stores i = S.stores i := by rw [hstep, hm, ← h]
      have hrun := @ih (S.step event) (by rw [hkept]; exact h)
      rw [hkept] at hrun
      exact hrun
    | some m =>
      have hloaded : ((S.step event).stores i).loaded = some m := by rw [hstep, hm]
      have hrun := @stores_run_of_loaded _ _ m _ (S.step event) i events hloaded
      rw [hstep, hm] at hrun
      exact hrun

/-- Operations on other stores make no difference to the files and to a store. -/
theorem run_filter (htree : T.tree = S.tree) (hstore : T.stores j = S.stores j) :
    (T.run (events.filter (·.concerns j))).tree = (S.run events).tree ∧
      (T.run (events.filter (·.concerns j))).stores j = (S.run events).stores j := by
  induction events generalizing S T with
  | nil => exact ⟨htree, hstore⟩
  | cons event events ih =>
    cases event with
    | files tree => exact @ih (S.step (.files tree)) (T.step (.files tree)) rfl hstore
    | operate i op =>
      by_cases hi : i = j
      · subst hi
        have hconcerns : (Event.operate i op : Event ι σ).concerns i = true := by
          simp [Event.concerns]
        rw [List.filter_cons_of_pos hconcerns]
        refine @ih (S.step (.operate i op)) (T.step (.operate i op)) htree ?_
        rw [stores_operate_self, stores_operate_self, htree, hstore]
      · have hconcerns : ¬ (Event.operate i op : Event ι σ).concerns j = true := by
          simp [Event.concerns, hi]
        rw [List.filter_cons_of_neg hconcerns]
        refine @ih (S.step (.operate i op)) T htree ?_
        rw [stores_operate_other (Ne.symm hi), hstore]

/-! ## What holds over whole runs -/

section Histories

variable {paths : ι → Path}

theorem stores_fresh_run : (((System.fresh paths tree).run events).stores i) =
    { path := paths i, loaded := firstLoad (paths i) i tree events } :=
  stores_run rfl

/-- A store without a successful load is as good as a fresh one, and stays so if the file is bad. -/
theorem unloaded_of_firstLoad (h : firstLoad (paths i) i tree events = none)
    (hS : S = (System.fresh paths tree).run events) (op : Operation σ) :
    (op.run S.tree (S.stores i)).1 = (op.run S.tree { path := paths i }).1 ∧
      ∀ e, readTemplates S.tree (paths i) = .error e →
        (op.run S.tree (S.stores i)).2 = { path := paths i } := by
  have hstore : S.stores i = { path := paths i } := by
    rw [hS, stores_fresh_run, h]
  rw [hstore]
  refine ⟨rfl, fun e he => ?_⟩
  have hload : Store.load { path := paths i } S.tree = (.error e, { path := paths i }) :=
    load_of_error rfl he
  cases hop : op.reads with
  | true => rw [run_of_reads hop, hload]
  | false => rw [run_of_not_reads hop]

theorem loaded_of_firstLoad (h : firstLoad (paths i) i tree events = some m)
    (hS : S = (System.fresh paths tree).run events) (later : List (Event ι σ)) :
    (S.run later).stores i = { path := paths i, loaded := some m } := by
  have hstore : S.stores i = { path := paths i, loaded := some m } := by
    rw [hS, stores_fresh_run, h]
  rw [stores_run_of_loaded (by rw [hstore]), hstore]

end Histories

/-- Whether a lookup found nothing or a client failed. -/
def Answer.failed : Answer σ → Bool
  | mapping r => !r.toBool
  | body r => !r.toBool
  | names r => !r.toBool
  | membership r => !r.toBool
  | loaded _ => false
  | envelope (.ok e) _ => !e.success
  | envelope (.error _) _ => true

theorem reads_of_failed (h : (op.run tree s).1.failed = true) : op.reads = true := by
  cases op with
  | isLoaded => simp [Operation.run, Answer.failed] at h
  | _ => rfl

/-- **The first load that succeeds settles a store for good**, in every run of any number of stores.
Until then it answers as a fresh store would, and a failed load leaves it to try again.  From then
on its answers come from what that load has found.  A lookup or a client that fails leaves a store
as a load does, and a loaded one as it is.  No operation changes a file, and none on another store
makes a difference. -/
theorem first_load_settles (paths : ι → Path) (tree : Tree) (events : List (Event ι σ)) :
    let S := (System.fresh paths tree).run events
    (∀ i, firstLoad (paths i) i tree events = none → ∀ op : Operation σ,
      (op.run S.tree (S.stores i)).1 = (op.run S.tree { path := paths i }).1 ∧
      ∀ e, readTemplates S.tree (paths i) = .error e →
        let after := (op.run S.tree (S.stores i)).2
        after.isLoaded = false ∧ ∀ later m, readTemplates later (paths i) = .ok m →
          after.load later = (.ok m, { path := paths i, loaded := some m })) ∧
    (∀ i m, firstLoad (paths i) i tree events = some m →
      ∀ (later : List (Event ι σ)) (op : Operation σ),
        let T := S.run later
        (T.stores i).isLoaded = true ∧ (op.run T.tree (T.stores i)).1 = op.answer (.ok m)) ∧
    (∀ i (op : Operation σ), (op.run S.tree (S.stores i)).1.failed = true →
      (op.run S.tree (S.stores i)).2 = ((S.stores i).load S.tree).2 ∧
      ((S.stores i).isLoaded = true → (op.run S.tree (S.stores i)).2 = S.stores i)) ∧
    (∀ i (op : Operation σ), (S.step (.operate i op)).tree = S.tree) ∧
    ∀ j, let T := (System.fresh paths tree).run (events.filter (·.concerns j))
      T.tree = S.tree ∧ T.stores j = S.stores j := by
  intro S
  refine ⟨fun i h op => ?_, fun i m h later op => ?_, fun i op h => ?_, fun i op => tree_operate,
    fun j => run_filter rfl rfl⟩
  · obtain ⟨hanswer, hafter⟩ := unloaded_of_firstLoad h rfl op
    refine ⟨hanswer, fun e he => ?_⟩
    have hload : ∀ later m, readTemplates later (paths i) = .ok m →
        Store.load { path := paths i } later = (.ok m, { path := paths i, loaded := some m }) :=
      fun later m hm => load_of_ok rfl hm
    rw [hafter e he]
    exact ⟨rfl, hload⟩
  · have hstore := loaded_of_firstLoad h rfl later
    have hloaded : ((S.run later).stores i).loaded = some m := by rw [hstore]
    refine ⟨?_, ?_⟩
    · rw [hstore]
      rfl
    · rw [run_of_loaded hloaded]
  · have hrun := @run_of_reads _ S.tree (S.stores i) op (reads_of_failed h)
    refine ⟨by rw [hrun], fun hloaded => ?_⟩
    obtain ⟨m, hm⟩ := Option.isSome_iff_exists.1 hloaded
    rw [run_of_loaded hm]

/-! ## One file -/

def oneTemplate : Mapping Text :=
  [(Text.ofString "a", Text.ofString "x")]

/-- The working directory with one file, which stores one template. -/
def oneFile : Tree :=
  ⟨[(["t.json"], .file (Encoding.Utf8.encode "\x7b\n  \"a\": \"x\"\n\x7d".toList))]⟩

theorem readTemplates_oneFile : readTemplates oneFile ⟨"", ["t.json"]⟩ = .ok oneTemplate := by
  have hdocument : Conversion.document oneTemplate =
      Text.ofChars "\x7b\n  \"a\": \"x\"\n\x7d".toList := by decide
  exact Conversion.Stored.readTemplates_of_document hdocument rfl rfl (by decide) (by decide)

/-- What was loaded outlives its file. -/
theorem first_load_settles_removed :
    let events : List (Event Unit Unit) := [.operate () .load, .files {}]
    let S := (System.fresh (fun _ => ⟨"", ["t.json"]⟩) oneFile).run events
    firstLoad ⟨"", ["t.json"]⟩ () oneFile events = some oneTemplate ∧
      ((Operation.get (Text.ofString "a") : Operation Unit).run S.tree (S.stores ())).1 =
        .body (.ok (Text.ofString "x")) := by
  intro events S
  have hfirst : firstLoad ⟨"", ["t.json"]⟩ () oneFile events = some oneTemplate := by
    simp only [events, firstLoad, readTemplates_oneFile]
    rfl
  have h := (first_load_settles (fun _ : Unit => ⟨"", ["t.json"]⟩) oneFile events).2.1
    () oneTemplate hfirst [] (.get (Text.ofString "a"))
  exact ⟨hfirst, h.2⟩

/-- Looking up a missing key in a good file loads the store, though the lookup fails. -/
theorem failed_lookup_loads :
    let S : System Unit := System.fresh (fun _ => ⟨"", ["t.json"]⟩) oneFile
    let op : Operation Unit := .get (Text.ofString "b")
    (op.run S.tree (S.stores ())).1.failed = true ∧ (S.stores ()).isLoaded = false ∧
      ((S.step (.operate () op)).stores ()).isLoaded = true := by
  intro S op
  have hload : (S.stores ()).load S.tree =
      (.ok oneTemplate, { path := ⟨"", ["t.json"]⟩, loaded := some oneTemplate }) :=
    load_of_ok rfl readTemplates_oneFile
  have hrun := @run_of_reads _ S.tree (S.stores ()) op rfl
  refine ⟨?_, rfl, ?_⟩
  · rw [hrun, hload]
    rfl
  · rw [stores_operate_self, hrun, hload]
    rfl

end PromptLibrary.Proofs.Store.Cache
