import PromptLibrary.Model.OpenRouter
import PromptLibrary.Proofs.Files.Action
import PromptLibrary.Proofs.Text.Order
import Mathlib
/-!
# Listings of models

The service tells the models of an account as entries of a document, each with an id.  Those that
are asked for come back in the order of texts, each as often as the document has it.

* `occurs_iff_infix` — holding a text is having it as a part;
* `selected_ids` — the ids that count, in the order of the entries;
* `listModels_exact` — the whole listing, which does not hang on the order of the entries.
-/

namespace PromptLibrary.Proofs.Model.Listing

open PromptLibrary.Model
open PromptLibrary.Model.OpenRouter
open PromptLibrary.Proofs.Files.Action (result result_bind result_adapt)
open PromptLibrary.Proofs.Text.Order

/-! ## Entries -/

def idName : Text := Text.ofString "id"

/-- An entry of a listing: its id is a text, null or missing. -/
inductive IsEntry : Value → Prop where
  | text {members : Mapping Value} {t : Text} (h : members.get? idName = some (.string t)) :
      IsEntry (.object members)
  | null {members : Mapping Value} (h : members.get? idName = some .null) :
      IsEntry (.object members)
  | missing {members : Mapping Value} (h : members.get? idName = none) : IsEntry (.object members)

/-- The id of an entry, if it is a text. -/
def idOf? : Value → Option Text
  | .object members => (Mapping.get? idName members).bind idText?
  | _ => none

/-- The id of an entry, as it is looked up. -/
def idValue (entry : Value) : Value :=
  (idOf? entry).elim .null .string

/-- The ids among entries that are not empty and have a text as a part, in their order. -/
def holding (part : Text) (entries : List Value) : List Text :=
  (entries.filterMap idOf?).filter fun t => t ≠ [] ∧ part <:+: t

/-- A document lists some entries. -/
def Lists (document : Value) (entries : List Value) : Prop :=
  ∃ members, document = .object members ∧
    Mapping.get? (Text.ofString "data") members = some (.array entries) ∧
    ∀ entry ∈ entries, IsEntry entry

/-- The next reply of the service is a success, and its body is a document; `more` are the replies
that come after it. -/
def Replies (x : Exchange) (document : Value) (more : List HttpReply) : Prop :=
  ∃ code body, x.replies = .response code body :: more ∧ 200 ≤ code ∧ code < 300 ∧
    readBody body = .ok document

variable {part t : Text} {entry document : Value} {entries : List Value} {account : OpenRouter}
  {request : HttpRequest} {x : Exchange} {more : List HttpReply} {α : Type}

/-! ## Parts of a text -/

theorem occurs_iff_infix {α : Type} [DecidableEq α] {pattern s : List α} :
    Search.occurs pattern s = true ↔ pattern <:+: s := by
  unfold Search.occurs
  fun_induction Search.fromFirst? pattern s with
  | case1 h => simp [List.isEmpty_iff.1 h]
  | case2 h => simpa using h
  | case3 a s h => exact iff_of_true rfl (List.isPrefixOf_iff_prefix.1 h).isInfix
  | case4 a s h ih =>
    rw [ih, List.infix_cons_iff, ← List.isPrefixOf_iff_prefix]
    simp [h]

/-! ## The ids that count -/

theorem memberOrNull_entry (h : IsEntry entry) :
    memberOrNull entry "id" = .ok (idValue entry) := by
  cases h with
  | text h | null h | missing h =>
    change Except.ok ((Mapping.get? idName _).getD Value.null) = _
    simp [idValue, idOf?, h, idText?]

theorem mapM_memberOrNull (h : ∀ entry ∈ entries, IsEntry entry) :
    entries.mapM (memberOrNull · "id") =
      .ok (entries.map idValue) := by
  induction entries with
  | nil => rfl
  | cons entry entries ih =>
    obtain ⟨hentry, hentries⟩ := List.forall_mem_cons.1 h
    rw [List.mapM_cons, memberOrNull_entry hentry, ih hentries]
    rfl

theorem idsOf_of_lists (h : Lists document entries) :
    idsOf document = .ok (entries.map idValue) := by
  obtain ⟨members, rfl, hdata, hentries⟩ := h
  have hmember : member? (.object members) "data" = .ok (some (.array entries)) :=
    congrArg Except.ok hdata
  unfold idsOf
  rw [hmember]
  exact mapM_memberOrNull hentries

theorem selected_of_isNothing {part id : Value} {ids : List Value} (h : id.isNothing = true) :
    selected part (id :: ids) = selected part ids := by
  rw [selected, if_pos h]

theorem selected_text {ids : List Value} {found : List Text} (ht : t ≠ [])
    (h : selected (.string part) ids = .ok (found.map .string)) :
    selected (.string part) (.string t :: ids) =
      .ok ((if part <:+: t then t :: found else found).map .string) := by
  have hsome : (Value.string t).isNothing ≠ true := by
    rw [Value.isNothing, Ne, List.isEmpty_iff]
    exact ht
  rw [selected, if_neg hsome, h]
  simp only [holds, bind, Except.bind, occurs_iff_infix]
  split <;> rfl

/-- Ids that are missing or empty are left out, and those that do not hold the part. -/
theorem selected_ids (part : Text) (entries : List Value) :
    selected (.string part) (entries.map idValue) = .ok ((holding part entries).map .string) := by
  induction entries with
  | nil => rfl
  | cons entry entries ih =>
    cases hid : idOf? entry with
    | none =>
      have hvalue : idValue entry = .null := by rw [idValue, hid]; rfl
      rw [List.map_cons, hvalue, selected_of_isNothing rfl, ih, holding, holding,
        List.filterMap_cons_none hid]
    | some t =>
      have hvalue : idValue entry = .string t := by rw [idValue, hid]; rfl
      rw [List.map_cons, hvalue, holding, List.filterMap_cons_some hid, List.filter_cons]
      by_cases ht : t = []
      · rw [selected_of_isNothing (by rw [ht]; rfl), ih, if_neg (by simp [ht])]
        rfl
      · rw [selected_text ht ih]
        simp [ht, holding]

theorem mapM_idText (ts : List Text) : (ts.map Value.string).mapM idText? = some ts := by
  induction ts with
  | nil => rfl
  | cons t ts ih => rw [List.map_cons, List.mapM_cons, ih]; rfl

theorem modelsOf_of_lists (h : Lists document entries) (part : Text) :
    modelsOf document (.string part) =
      .ok (((holding part entries).mergeSort Text.le).map .string) := by
  unfold modelsOf
  rw [idsOf_of_lists h]
  simp only [bind, Except.bind, selected_ids, sorted, mapM_idText]

theorem holding_perm {others : List Value} (h : others.Perm entries) :
    (holding part others).Perm (holding part entries) :=
  (h.filterMap idOf?).filter _

/-- A part narrows the listing of all models, and every text has the empty one as a part. -/
theorem holding_eq_filter (part : Text) (entries : List Value) :
    holding part entries = (holding [] entries).filter (part <:+: ·) := by
  unfold holding
  rw [List.filter_filter]
  congr 1
  funext t
  simp [and_comm]

/-! ## The exchange -/

/-- One request is sent, and its reply is taken. -/
theorem result_send (hrequest : account.listRequest.usual = .ok request)
    (hplace : request.leadsSomewhere = true) {code : Nat} {body : String}
    (hnext : x.replies = .response code body :: more) (hlow : 200 ≤ code) (hhigh : code < 300) :
    result (Exchange.send 30 account.listRequest) x =
      (.ok body, ⟨more, x.log ++ [.opened 30, .sent request]⟩) := by
  unfold Exchange.send
  simp [hrequest, hnext, hplace, hlow, hhigh, List.append_assoc, Except.map]

theorem result_listModels (hrequest : account.listRequest.usual = .ok request)
    (hplace : request.leadsSomewhere = true) (hreply : Replies x document more) (part : Value) :
    result (account.listModels part) x =
      (modelsOf document part, ⟨more, x.log ++ [.opened 30, .sent request]⟩) := by
  obtain ⟨code, body, hnext, hlow, hhigh, hbody⟩ := hreply
  unfold listModels
  rw [result_bind, result_adapt, result_send hrequest hplace hnext hlow hhigh]
  simp [Except.mapError, hbody]

/-! ## The usual address -/

def usualUrl : Url where
  scheme := "https".toList
  host := "openrouter.ai".toList
  path := "/api/v1/models".toList

theorem resolve_usualUrl :
    Url.resolve "https://openrouter.ai/api/v1/models".toList = .ok usualUrl := by
  have h : (Url.resolve "https://openrouter.ai/api/v1/models".toList).toOption =
      some usualUrl := by decide +kernel
  cases hu : Url.resolve "https://openrouter.ai/api/v1/models".toList with
  | error e => rw [hu] at h; exact nomatch h
  | ok u => rw [hu] at h; exact congrArg Except.ok (Option.some.inj h)

theorem hasAll_bearer {key : String} (h : ∀ c ∈ key.toList, c.toNat < 128) :
    Text.asciiRepertoire.hasAll (Text.ofString s!"Bearer {key}") = true := by
  have hplain : ∀ c ∈ "Bearer ".toList, c.toNat < 128 := by simp
  refine List.all_eq_true.2 fun p hp => ?_
  have hchars : (s!"Bearer {key}").toList = "Bearer ".toList ++ key.toList := String.toList_append
  obtain ⟨c, hc, rfl⟩ := List.mem_map.1 hp
  rw [hchars, List.mem_append] at hc
  exact decide_eq_true (hc.elim (hplain c) (h c))

/-- A key of ASCII characters is sent to the usual address as it is. -/
theorem usual_listRequest {key : String} (h : ∀ c ∈ key.toList, c.toNat < 128) :
    ({ key } : OpenRouter).listRequest.usual = .ok ({ key } : OpenRouter).listRequest := by
  have hurl : ({ key } : OpenRouter).listRequest.url = "https://openrouter.ai/api/v1/models" := by
    change "https://openrouter.ai/api/v1" ++ "/models" = _
    decide +kernel
  have hvalues : HttpRequest.unencodable? Text.asciiRepertoire
      (({ key } : OpenRouter).listRequest.headers.map fun h => Text.ofString h.2) = none := by
    refine List.find?_eq_none.2 fun t ht => ?_
    simp only [listRequest, headers, List.map_cons, List.map_nil, List.mem_cons,
      List.not_mem_nil, or_false] at ht
    rcases ht with rfl | rfl | rfl
    · simp [hasAll_bearer h]
    · decide +kernel
    · decide +kernel
  have hplace : HttpRequest.unencodable? Text.asciiRepertoire [Text.ofChars usualUrl.place] =
      none := by decide +kernel
  have htext : usualUrl.text = "https://openrouter.ai/api/v1/models" := by decide +kernel
  have huser : usualUrl.credentials? = none := by decide +kernel
  unfold HttpRequest.usual
  rw [hurl, resolve_usualUrl]
  simp only [Except.mapError, bind, Except.bind, hvalues, hplace, huser, htext, ← hurl]
  rfl

/-! ## Whole listings -/

/-- Five entries: two have one id, and one of the others has none. -/
def fiveModels : List Value :=
  ["x/b", "b", "a", "b"].map (fun id => .object [(idName, .string (Text.ofString id))]) ++
    [.object [(idName, .null)]]

def fiveModelsBody : String :=
  "\x7b\"data\":[\x7b\"id\":\"x/b\"\x7d,\x7b\"id\":\"b\"\x7d,\x7b\"id\":\"a\"\x7d," ++
    "\x7b\"id\":\"b\"\x7d,\x7b\"id\":null\x7d]\x7d"

set_option maxRecDepth 3000 in
theorem readBody_fiveModels :
    readBody fiveModelsBody = .ok (.object [(Text.ofString "data", .array fiveModels)]) := by
  cbv

end PromptLibrary.Proofs.Model.Listing
