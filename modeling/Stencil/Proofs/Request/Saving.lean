import Stencil.Proofs.Json.Merging
import Stencil.Proofs.Json.RoundTrip
import Stencil.Proofs.Parameter.Fields
import Stencil.Request.Catalog

/-!
# Definitions saved and loaded

A definition is read back from the value it is written as. Only a template that is null is left out
then, since null stands for no template.
-/

namespace Stencil

open Template (NamesDiffer entries_ofList names_ofList find?_ofList ofList_append)

theorem Dictionary.eq_of_entries {α : Type} {d e : Dictionary α} (h : d.entries = e.entries) :
    d = e := by
  cases d
  cases e
  cases h
  rfl

theorem Dictionary.ofList_entries {α : Type} (d : Dictionary α) : ofList d.entries = d :=
  eq_of_entries (entries_ofList d.nodup)

/-! ## Records with fields left out -/

namespace Json

/-- The members for those fields that have a value. -/
def written (fs : List (String × Option Json)) : Members :=
  fs.flatMap fun f => field? f.1 id f.2

theorem names_written (fs : List (String × Option Json)) :
    (Entries.names (written fs)).Sublist (fs.map Prod.fst) := by
  induction fs with
  | nil => exact .slnil
  | cons f fs ih =>
    obtain ⟨name, _ | v⟩ := f
    · exact ih.cons name
    · exact ih.cons_cons name

theorem find?_written {fs : List (String × Option Json)} (h : (fs.map Prod.fst).Nodup)
    {name : String} {value : Option Json} (hmem : (name, value) ∈ fs) :
    Entries.find? (written fs) name = value := by
  induction fs with
  | nil => cases hmem
  | cons f fs ih =>
    obtain ⟨hnew, hfs⟩ := List.nodup_cons.1 h
    rcases List.mem_cons.1 hmem with rfl | hmem
    · have gone : Entries.find? (written fs) name = none :=
        Entries.find?_eq_none fun there => hnew ((names_written fs).subset there)
      cases value with
      | none => exact gone
      | some v => exact if_pos rfl
    · have differs : f.1 ≠ name := fun heq => hnew (heq ▸ List.mem_map.2 ⟨_, hmem, rfl⟩)
      have behind := ih hfs hmem
      obtain ⟨k, _ | v⟩ := f
      · exact behind
      · exact (if_neg differs).trans behind

theorem fields_written {fs : List (String × Option Json)} {names : List String}
    (hnames : fs.map Prod.fst = names) (h : names.Nodup) :
    Decoder.fields names (.obj (written fs)) = some (fs.map Prod.snd) := by
  subst hnames
  have once : (fs.map Prod.fst).all
      (fun name => ((written fs).filter fun m => m.1 == name).length ≤ 1) = true := by
    rw [List.all_eq_true]
    intro name _
    have count := List.nodup_iff_count_le_one.1 (h.sublist (names_written fs)) name
    rw [Entries.names, List.count, List.countP_map, List.countP_eq_length_filter] at count
    exact decide_eq_true count
  have found : (fs.map Prod.fst).map (Entries.find? (written fs)) = fs.map Prod.snd := by
    rw [List.map_map]
    exact List.map_congr_left fun f hf => find?_written h hf
  rw [Decoder.fields, if_pos once, found]

/-! ## Formats -/

/-- Null stands for no value. -/
def nonNull? : Json → Option Json
  | null => none
  | v => some v

/-- JSON values, with templates taken as a function gives them. -/
def templateFormat (g : Json → Json) : Format Json := { format with json? := fun v => some (g v) }

variable (g : Json → Json)

theorem templateFormat_fields {v : Json} {fs : List (String × Option Json)} {names : List String}
    (h : names.Nodup) (hv : v = .obj (written fs)) (hnames : fs.map Prod.fst = names) :
    (templateFormat g).fields? names v = some (fs.map Prod.snd) := by
  subst hv
  exact fields_written hnames h

theorem optional_str (value : Option String) :
    (templateFormat g).optional (templateFormat g).text? (value.map str) = some value := by
  cases value <;> rfl

theorem optional_json (value : Option Json) :
    (templateFormat g).optional (templateFormat g).json? value =
      some ((value.bind nonNull?).map g) := by
  cases value with
  | none => rfl
  | some v => cases v <;> rfl

theorem mapM_text?_str (es : Entries String) :
    (es.map fun (name, text) => (name, str text)).mapM
      (fun (name, v) => ((templateFormat g).text? v).map fun text => (name, text)) = some es := by
  induction es with
  | nil => rfl
  | cons e es ih =>
    rw [List.map_cons, List.mapM_cons, ih]
    rfl

theorem texts?_headersJson (headers : Dictionary String) :
    (templateFormat g).texts? (RequestTemplate.headersJson headers) = some headers := by
  have texts := mapM_text?_str g headers.entries
  have entries : (templateFormat g).entries? (RequestTemplate.headersJson headers) =
      some (headers.entries.map fun (name, text) => (name, str text)) := rfl
  unfold Format.texts?
  rw [entries, Option.bind_eq_bind, Option.bind_some, texts, Option.bind_eq_bind,
    Option.bind_some, Dictionary.ofList_entries]

end Json

/-! ## Definitions -/

section

variable {g : Json → Json}

theorem map_bind_nonNull? {value : Option Json} (h : ∀ v ∈ value, g v = v) :
    (value.bind Json.nonNull?).map g = value.bind Json.nonNull? := by
  rcases value with _ | v
  · rfl
  · have same := h v rfl
    cases v <;> simp [Json.nonNull?, same]

theorem bind_nonNull?_read (hg : ∀ v, g v = .null → v = .null) (value : Option Json) :
    ((value.bind Json.nonNull?).map g).bind Json.nonNull? = (value.bind Json.nonNull?).map g := by
  rcases value with _ | v
  · rfl
  · have kept : v ≠ .null → (g v).nonNull? = some (g v) := by
      intro hv
      unfold Json.nonNull?
      split
      · next hnull => exact absurd (hg v hnull) hv
      · rfl
    cases v with
    | null => rfl
    | bool | num | str | arr | obj => exact kept nofun

namespace RequestTemplate

/-- The template without a body that is null. -/
def loaded (t : RequestTemplate) : RequestTemplate := { t with body := t.body.bind Json.nonNull? }

/-- The headers that are written, if there are any. -/
def writtenHeaders (t : RequestTemplate) : Option (Dictionary String) :=
  if t.headers.entries.isEmpty then none else some t.headers

def record (t : RequestTemplate) : List (String × Option Json) :=
  [("url", some (.str t.url)), ("method", t.method.map .str),
    ("headers", t.writtenHeaders.map headersJson), ("body", t.body)]

theorem toJson_eq (t : RequestTemplate) : t.toJson = .obj (Json.written t.record) := by
  unfold toJson record writtenHeaders
  cases t.method <;> cases t.body <;> cases t.headers.entries.isEmpty <;> rfl

theorem read_writtenHeaders (t : RequestTemplate) :
    ((t.writtenHeaders.map headersJson).map (Json.templateFormat g).texts?).getD (some .empty) =
      some t.headers := by
  unfold writtenHeaders
  split
  · next none_there =>
    have empty : t.headers = .empty := Dictionary.eq_of_entries (List.isEmpty_iff.1 none_there)
    rw [empty]
    rfl
  · exact Json.texts?_headersJson g t.headers

theorem decode_toJson {t : RequestTemplate} (h : ∀ v ∈ t.body, g v = v) :
    decode (Json.templateFormat g) t.toJson = some t.loaded := by
  have names : fieldNames.Nodup := by decide
  unfold decode
  rw [Json.templateFormat_fields g names t.toJson_eq rfl]
  simp only [record, List.map_cons, List.map_nil, Option.bind_eq_bind, Option.bind_some]
  rw [Json.optional_str, Json.optional_json, read_writtenHeaders, map_bind_nonNull? h]
  rfl

theorem loaded_of_decode (hg : ∀ v, g v = .null → v = .null) {v : Json} {t : RequestTemplate}
    (h : decode (Json.templateFormat g) v = some t) : t.loaded = t := by
  unfold decode at h
  obtain ⟨fields, -, h⟩ := Option.bind_eq_some_iff.1 h
  split at h
  · next body =>
    obtain ⟨url, -, h⟩ := Option.bind_eq_some_iff.1 h
    obtain ⟨method, -, h⟩ := Option.bind_eq_some_iff.1 h
    obtain ⟨headers, -, h⟩ := Option.bind_eq_some_iff.1 h
    rw [Json.optional_json] at h
    cases h
    rw [loaded, bind_nonNull?_read hg]
  · cases h

end RequestTemplate

namespace ResponseTemplate

/-- The template without an output that is null. -/
def loaded (t : ResponseTemplate) : ResponseTemplate :=
  { t with template := t.template.bind Json.nonNull? }

def record (t : ResponseTemplate) : List (String × Option Json) :=
  [("encoding", t.encoding.map .str), ("template", t.template)]

theorem toJson_eq (t : ResponseTemplate) : t.toJson = .obj (Json.written t.record) := by
  unfold toJson record
  cases t.encoding <;> cases t.template <;> rfl

theorem decode_toJson {t : ResponseTemplate} (h : ∀ v ∈ t.template, g v = v) :
    decode (Json.templateFormat g) t.toJson = some t.loaded := by
  have names : fieldNames.Nodup := by decide
  unfold decode
  rw [Json.templateFormat_fields g names t.toJson_eq rfl]
  simp only [record, List.map_cons, List.map_nil, Option.bind_eq_bind, Option.bind_some]
  rw [Json.optional_str, Json.optional_json, map_bind_nonNull? h]
  rfl

theorem loaded_of_decode (hg : ∀ v, g v = .null → v = .null) {v : Json} {t : ResponseTemplate}
    (h : decode (Json.templateFormat g) v = some t) : t.loaded = t := by
  unfold decode at h
  obtain ⟨fields, -, h⟩ := Option.bind_eq_some_iff.1 h
  split at h
  · obtain ⟨encoding, -, h⟩ := Option.bind_eq_some_iff.1 h
    rw [Json.optional_json] at h
    cases h
    rw [loaded, bind_nonNull?_read hg]
  · cases h

end ResponseTemplate

namespace RequestDefinition

/-- The templates of a definition. -/
def templates (d : RequestDefinition) : List Json :=
  d.request.body.toList ++ d.response.template.toList

/-- The definition without templates that are null. -/
def loaded (d : RequestDefinition) : RequestDefinition :=
  ⟨d.name, d.request.loaded, d.response.loaded⟩

def record (d : RequestDefinition) : List (String × Option Json) :=
  [("name", some (.str d.name)), ("request", some d.request.toJson),
    ("response", some d.response.toJson)]

theorem toJson_eq (d : RequestDefinition) : d.toJson = .obj (Json.written d.record) := rfl

theorem decode_toJson {d : RequestDefinition} (h : ∀ v ∈ d.templates, g v = v) :
    decode (Json.templateFormat g) d.toJson = some d.loaded := by
  have body : ∀ v ∈ d.request.body, g v = v := fun v hv =>
    h v (List.mem_append_left _ (Option.mem_toList.2 hv))
  have template : ∀ v ∈ d.response.template, g v = v := fun v hv =>
    h v (List.mem_append_right _ (Option.mem_toList.2 hv))
  have names : fieldNames.Nodup := by decide
  unfold decode
  rw [Json.templateFormat_fields g names d.toJson_eq rfl]
  simp only [record, List.map_cons, List.map_nil, Option.bind_eq_bind, Option.bind_some,
    Option.map_some, Option.getD_some]
  rw [RequestTemplate.decode_toJson body, ResponseTemplate.decode_toJson template]
  rfl

theorem loaded_of_decode (hg : ∀ v, g v = .null → v = .null) {v : Json} {d : RequestDefinition}
    (h : decode (Json.templateFormat g) v = some d) : d.loaded = d := by
  unfold decode at h
  obtain ⟨fields, -, h⟩ := Option.bind_eq_some_iff.1 h
  split at h
  · next written =>
    obtain ⟨name, -, h⟩ := Option.bind_eq_some_iff.1 h
    obtain ⟨request, hrequest, h⟩ := Option.bind_eq_some_iff.1 h
    obtain ⟨response, hresponse, h⟩ := Option.bind_eq_some_iff.1 h
    cases h
    have same : response.loaded = response := by
      rcases written with _ | written
      · have empty : ResponseTemplate.empty = response := Option.some.inj hresponse
        subst empty
        rfl
      · exact ResponseTemplate.loaded_of_decode hg hresponse
    rw [loaded, RequestTemplate.loaded_of_decode hg hrequest, same]
  · cases h

end RequestDefinition

end

/-! ## Catalogs -/

namespace Entries

variable {α β : Type}

theorem insert_map (f : α → β) (es : Entries α) (name : String) (value : α) :
    insert (es.map fun e => (e.1, f e.2)) name (f value) =
      (insert es name value).map fun e => (e.1, f e.2) := by
  induction es with
  | nil => rfl
  | cons e es ih =>
    obtain ⟨k, v⟩ := e
    rw [List.map_cons, insert, insert, ih]
    split <;> rfl

theorem ofList_map (f : α → β) (es : Entries α) :
    (Dictionary.ofList (es.map fun e => (e.1, f e.2))).entries =
      (Dictionary.ofList es).entries.map fun e => (e.1, f e.2) := by
  induction es using List.reverseRecOn with
  | nil => rfl
  | append_singleton es e ih =>
    rw [List.map_append, List.map_singleton, ofList_append, ofList_append, ih, insert_map]

theorem filterMap_find? {es : Entries α} (h : (names es).Nodup) :
    (names es).filterMap (find? es) = es.map Prod.snd := by
  have found : ∀ e ∈ es, (find? es ∘ Prod.fst) e = (some ∘ Prod.snd) e :=
    fun e he => find?_of_mem h he
  rw [names, List.filterMap_map, List.filterMap_congr found, List.filterMap_eq_map]

end Entries

namespace Catalog

/-- Definitions under their names. -/
def named (ds : List RequestDefinition) : Entries RequestDefinition := ds.map fun d => (d.name, d)

theorem definitions_ofList (ds : List RequestDefinition) :
    (ofList ds).definitions = Dictionary.ofList (named ds) := by
  have run (c : Catalog) (ds : List RequestDefinition) : (ds.foldl insert c).definitions =
      (named ds).foldl (fun es e => es.insert e.1 e.2) c.definitions := by
    induction ds generalizing c with
    | nil => rfl
    | cons d ds ih => exact ih (c.insert d)
  exact run empty ds

theorem names_named (ds : List RequestDefinition) :
    Entries.names (named ds) = ds.map RequestDefinition.name := by
  rw [named, Entries.names, List.map_map]
  rfl

theorem find?_named (ds : List RequestDefinition) (name : String) :
    Entries.find? (named ds) name = ds.find? fun d => d.name = name := by
  induction ds with
  | nil => rfl
  | cons d ds ih =>
    rw [named, List.map_cons, Entries.find?, List.find?_cons, ← named, ih]
    by_cases h : d.name = name <;> simp [h]

theorem names_eq_eraseDups (ds : List RequestDefinition) :
    (ofList ds).names = (ds.map RequestDefinition.name).eraseDups := by
  rw [names, definitions_ofList, Dictionary.names, names_ofList, names_named]

theorem get?_ofList (ds : List RequestDefinition) (name : String) :
    (ofList ds).get? name = ds.reverse.find? fun d => d.name = name := by
  rw [get?, definitions_ofList, Dictionary.find?, find?_ofList, named, ← List.map_reverse, ← named,
    find?_named]

theorem toList_eq_filterMap (c : Catalog) : c.toList = c.names.filterMap c.get? :=
  (Entries.filterMap_find? c.definitions.nodup).symm

theorem mem_named_of_mem_entries {ds : List RequestDefinition} {e : String × RequestDefinition}
    (h : e ∈ (ofList ds).definitions.entries) : e ∈ named ds := by
  have found := Entries.find?_of_mem (ofList ds).definitions.nodup h
  rw [definitions_ofList, find?_ofList] at found
  exact List.mem_reverse.1 (Entries.mem_of_find?_eq_some found)

theorem named_toList (ds : List RequestDefinition) :
    named (ofList ds).toList = (ofList ds).definitions.entries := by
  have own : ∀ e ∈ (ofList ds).definitions.entries, (e.2.name, e.2) = e := by
    rintro ⟨name, d⟩ he
    obtain ⟨d, -, heq⟩ := List.mem_map.1 (mem_named_of_mem_entries he)
    cases heq
    rfl
  rw [named, toList, List.map_map]
  exact (List.map_congr_left own).trans (List.map_id _)

theorem mem_of_mem_toList {ds : List RequestDefinition} {d : RequestDefinition}
    (h : d ∈ (ofList ds).toList) : d ∈ ds := by
  obtain ⟨e, he, rfl⟩ := List.mem_map.1 h
  obtain ⟨d, hd, rfl⟩ := List.mem_map.1 (mem_named_of_mem_entries he)
  exact hd

/-- Loading the list that a catalog is written as gives the catalog again. -/
theorem ofList_toList (f : RequestDefinition → RequestDefinition)
    (hf : ∀ d, (f d).name = d.name) (ds : List RequestDefinition) :
    ofList ((ofList ds).toList.map f) = ofList (ds.map f) := by
  have names (ds : List RequestDefinition) :
      named (ds.map f) = (named ds).map fun e => (e.1, f e.2) := by
    simp [named, hf]
  have same : (ofList ((ofList ds).toList.map f)).definitions =
      (ofList (ds.map f)).definitions := by
    apply Dictionary.eq_of_entries
    rw [definitions_ofList, definitions_ofList, names, names, named_toList, Entries.ofList_map,
      Entries.ofList_map, Dictionary.ofList_entries, definitions_ofList]
  exact congrArg Catalog.mk same

/-- A catalog as a JSON value: the list of its definitions. -/
def toJson (c : Catalog) : Json := .arr (c.toList.map RequestDefinition.toJson)

theorem mapM_decode_toJson {g : Json → Json} {ds : List RequestDefinition}
    (h : ∀ d ∈ ds, ∀ v ∈ d.templates, g v = v) :
    (ds.map RequestDefinition.toJson).mapM (RequestDefinition.decode (Json.templateFormat g)) =
      some (ds.map RequestDefinition.loaded) := by
  induction ds with
  | nil => rfl
  | cons d ds ih =>
    rw [List.forall_mem_cons] at h
    rw [List.map_cons, List.mapM_cons, RequestDefinition.decode_toJson h.1, ih h.2]
    rfl

theorem decode_toJson {g : Json → Json} {ds : List RequestDefinition}
    (h : ∀ d ∈ ds, ∀ v ∈ d.templates, g v = v) :
    decode (Json.templateFormat g) (ofList ds).toJson =
      some (ofList (ds.map RequestDefinition.loaded)) := by
  have items : (Json.templateFormat g).items? (ofList ds).toJson =
      some ((ofList ds).toList.map RequestDefinition.toJson) := rfl
  have all := mapM_decode_toJson (g := g) fun d hd => h d (mem_of_mem_toList hd)
  have names : ∀ d, (RequestDefinition.loaded d).name = d.name := fun _ => rfl
  unfold decode
  rw [items, Option.bind_eq_bind, Option.bind_some, all, Option.bind_eq_bind, Option.bind_some,
    ofList_toList RequestDefinition.loaded names]

end Catalog

/-! ## Texts -/

namespace Json

theorem readable_written {depth : ℕ} {fs : List (String × Option Json)}
    (h : ∀ f ∈ fs, ∀ v ∈ f.2, Readable depth v) : Readable (depth + 1) (.obj (written fs)) := by
  refine .obj fun m hm => ?_
  obtain ⟨f, hf, hmem⟩ := List.mem_flatMap.1 hm
  obtain ⟨v, hv, rfl⟩ := Option.mem_map.1 (Option.mem_toList.1 hmem)
  exact h f hf v hv

theorem readable_headersJson (depth : ℕ) (headers : Dictionary String) :
    Readable (depth + 1) (RequestTemplate.headersJson headers) := by
  refine .obj fun m hm => ?_
  obtain ⟨e, -, rfl⟩ := List.mem_map.1 hm
  exact .str e.2

end Json

theorem RequestTemplate.readable_toJson {depth : ℕ} {t : RequestTemplate}
    (h : ∀ v ∈ t.body, Json.Readable (depth + 1) v) : Json.Readable (depth + 2) t.toJson := by
  rw [toJson_eq]
  refine Json.readable_written fun f hf v hv => ?_
  simp only [record, List.mem_cons, List.not_mem_nil, or_false] at hf
  obtain rfl | rfl | rfl | rfl := hf
  · cases hv
    exact .str t.url
  · obtain ⟨method, -, rfl⟩ := Option.mem_map.1 hv
    exact .str method
  · obtain ⟨headers, -, rfl⟩ := Option.mem_map.1 hv
    exact Json.readable_headersJson depth headers
  · exact h v hv

theorem ResponseTemplate.readable_toJson {depth : ℕ} {t : ResponseTemplate}
    (h : ∀ v ∈ t.template, Json.Readable (depth + 1) v) : Json.Readable (depth + 2) t.toJson := by
  rw [toJson_eq]
  refine Json.readable_written fun f hf v hv => ?_
  simp only [record, List.mem_cons, List.not_mem_nil, or_false] at hf
  obtain rfl | rfl := hf
  · obtain ⟨encoding, -, rfl⟩ := Option.mem_map.1 hv
    exact .str encoding
  · exact h v hv

theorem RequestDefinition.readable_toJson {depth : ℕ} {d : RequestDefinition}
    (h : ∀ v ∈ d.templates, Json.Readable (depth + 1) v) : Json.Readable (depth + 3) d.toJson := by
  rw [toJson_eq]
  refine Json.readable_written fun f hf v hv => ?_
  simp only [record, List.mem_cons, List.not_mem_nil, or_false] at hf
  obtain rfl | rfl | rfl := hf <;> cases hv
  · exact .str d.name
  · exact RequestTemplate.readable_toJson fun v hv =>
      h v (List.mem_append_left _ (Option.mem_toList.2 hv))
  · exact ResponseTemplate.readable_toJson fun v hv =>
      h v (List.mem_append_right _ (Option.mem_toList.2 hv))

namespace Catalog

theorem parseTree?_compact_toJson {ds : List RequestDefinition}
    (h : ∀ d ∈ ds, ∀ v ∈ d.templates, Json.Readable 124 v) :
    Json.parseTree? (Json.compact (ofList ds).toJson) = some (ofList ds).toJson := by
  refine Json.parseTree?_compact (.arr fun v hv => ?_)
  obtain ⟨d, hd, rfl⟩ := List.mem_map.1 hv
  exact RequestDefinition.readable_toJson (h d (mem_of_mem_toList hd))

theorem ofJsonText_of_parseTree? {ds : List RequestDefinition} {text : String}
    (hnames : ∀ d ∈ ds, ∀ v ∈ d.templates, NamesDiffer v)
    (h : Json.parseTree? text = some (ofList ds).toJson) :
    ofJsonText text = .ok (ofList (ds.map RequestDefinition.loaded)) := by
  have read : decode Json.treeFormat (ofList ds).toJson =
      some (ofList (ds.map RequestDefinition.loaded)) :=
    decode_toJson fun d hd v hv => Json.merged_of_namesDiffer (hnames d hd v hv)
  rw [ofJsonText, h, Option.bind_some, read]

end Catalog

theorem bind_nonNull?_of_ne {value : Option Json} (h : .null ∉ value.toList) :
    value.bind Json.nonNull? = value := by
  rcases value with _ | v
  · rfl
  · cases v with
    | null => exact absurd (Option.mem_toList.2 rfl) h
    | bool | num | str | arr | obj => rfl

theorem RequestDefinition.loaded_of_nonNull {d : RequestDefinition} (h : .null ∉ d.templates) :
    d.loaded = d := by
  rw [templates, List.mem_append, not_or] at h
  rw [loaded, RequestTemplate.loaded, ResponseTemplate.loaded, bind_nonNull?_of_ne h.1,
    bind_nonNull?_of_ne h.2]

theorem Json.eq_null_of_merged {v : Json} (h : v.merged = .null) : v = .null := by
  cases v with
  | null => rfl
  | bool | num | str | arr | obj => simp [merged] at h

/-- A definition is read back from the value it is written as, without templates that are null, and
so as it is if it was read itself. A catalog lists every name once, in the place where it first came
and with its last definition. The text of its list of definitions is read as the same catalog, where
every name stands once in each object of a template, numbers are read back from their digits and
texts nest no deeper than they may. -/
theorem Catalog.saved_definitions_load :
    (∀ d : RequestDefinition, RequestDefinition.decode Json.format d.toJson = some d.loaded) ∧
      (∀ d : RequestDefinition, .null ∉ d.templates → d.loaded = d) ∧
      (∀ v d, RequestDefinition.decode Json.format v = some d ∨
          RequestDefinition.decode Json.treeFormat v = some d →
        RequestDefinition.decode Json.format d.toJson = some d) ∧
      (∀ ds, (ofList ds).names = (ds.map RequestDefinition.name).eraseDups ∧
        (∀ name, (ofList ds).get? name = ds.reverse.find? fun d => d.name = name) ∧
        (ofList ds).toList = (ofList ds).names.filterMap (ofList ds).get?) ∧
      (∀ ds, (∀ d ∈ ds, ∀ v ∈ d.templates, NamesDiffer v) →
        (∀ text, Json.parseTree? text = some (ofList ds).toJson →
          ofJsonText text = .ok (ofList (ds.map RequestDefinition.loaded))) ∧
        ((∀ d ∈ ds, ∀ v ∈ d.templates, Json.Readable 124 v) →
          ofJsonText (Json.compact (ofList ds).toJson) =
            .ok (ofList (ds.map RequestDefinition.loaded)))) := by
  refine ⟨fun d => RequestDefinition.decode_toJson fun _ _ => rfl,
    fun d => RequestDefinition.loaded_of_nonNull, fun v d h => ?_, fun ds => ?_,
    fun ds hnames => ⟨fun text => ofJsonText_of_parseTree? hnames, fun hread => ?_⟩⟩
  · have read : RequestDefinition.decode Json.format d.toJson = some d.loaded :=
      RequestDefinition.decode_toJson fun _ _ => rfl
    rw [read]
    rcases h with h | h
    · exact congrArg some (RequestDefinition.loaded_of_decode (fun _ => id) h)
    · exact congrArg some
        (RequestDefinition.loaded_of_decode (fun _ => Json.eq_null_of_merged) h)
  · exact ⟨names_eq_eraseDups ds, get?_ofList ds, toList_eq_filterMap _⟩
  · exact ofJsonText_of_parseTree? hnames (parseTree?_compact_toJson hread)

-- Of two definitions of one name the second is saved. It loses a template that is null, and
-- keeps the body.
theorem Catalog.saved_definitions_load_replaced :
    let body : Json := .obj [("k", .arr [.int 1, .null])]
    let old : RequestDefinition := ⟨"a", .ofUrl "x", .empty⟩
    let new : RequestDefinition := ⟨"a", ⟨"y", none, .empty, some body⟩, ⟨none, some .null⟩⟩
    let kept : RequestDefinition := ⟨"a", ⟨"y", none, .empty, some body⟩, .empty⟩
    ofJsonText (Json.compact (ofList [old, new]).toJson) = .ok (ofList [old, kept]) ∧
      kept.loaded = kept ∧ RequestDefinition.decode Json.format kept.toJson = some kept := by
  intro body old new kept
  have number : Json.ReadsBack (.int 1) := Json.readsBack_int (by decide) (by decide)
  have distinct : NamesDiffer body := ⟨by decide, ⟨trivial, trivial, trivial⟩, trivial⟩
  have readable : Json.Readable 124 body :=
    .obj (List.forall_mem_singleton.2 (.arr (List.forall_mem_cons.2 ⟨.num number,
      List.forall_mem_singleton.2 .null⟩)))
  have all {P : Json → Prop} (hbody : P body) (hnull : P .null) :
      ∀ d ∈ [old, new], ∀ v ∈ d.templates, P v := by
    refine List.forall_mem_cons.2 ⟨nofun, List.forall_mem_singleton.2 ?_⟩
    exact List.forall_mem_cons.2 ⟨hbody, List.forall_mem_singleton.2 hnull⟩
  have written : RequestDefinition.decode Json.format (.obj [("request", .obj [("body", body),
      ("url", .str "y"), ("method", .null)]), ("name", .str "a"), ("note", .null)]) =
      some kept := rfl
  have nonNull : .null ∉ kept.templates := by
    intro h
    have same : Json.null = body := List.mem_singleton.1 h
    nomatch same
  exact ⟨(saved_definitions_load.2.2.2.2 [old, new] (all distinct trivial)).2 (all readable .null),
    saved_definitions_load.2.1 kept nonNull,
    saved_definitions_load.2.2.1 _ kept (.inl written)⟩

end Stencil
