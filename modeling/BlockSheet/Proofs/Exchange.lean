import Mathlib
import BlockSheet.Host
import BlockSheet.Style.Exchange
import BlockSheet.Proofs.Json.Record

/-!
# Exchanged data reads back

Documents, style attributes, identities, declarations and options read back from their JSON texts
(`parse_text_eq`), and what the host does with a text it does with the data that was written. The
brackets of a text must be within the nesting limit, which matters for documents, style attributes
and style trees, since only these nest freely; and the objects in them must be maps.

The text of a record has all fields in a fixed order (`written`), and a record reads back if each of
these fields does. Documents go by induction, since the inner blocks of a block are a document.
-/

namespace BlockSheet

open Json (Value Fields Reader ReadsBack BeginsItem WrittenField RecordShape TakesUp stringText
  arrayText string_readsBack boolean_readsBack word32_readsBack word64_readsBack fields_readsBack
  listOf_readsBack objectOf_readsBack parseWith_eq_ok colon_cons)

/-! ### Records of texts -/

namespace Identity

/-- The fields of an identity as they are written. -/
def written (identity : Identity) : List (WrittenField Field) :=
  [⟨"id", stringText identity.id, .id identity.id⟩,
    ⟨"className", stringText identity.className, .className identity.className⟩]

theorem reads_written (identity : Identity) : ∀ f ∈ identity.written, shape.Reads f := by
  simp only [written, List.forall_mem_cons]
  exact ⟨.of_tagged rfl (string_readsBack _), .of_tagged rfl (string_readsBack _),
    List.forall_mem_nil _⟩

theorem parse_text (identity : Identity) : parse identity.text = .ok identity := by
  have hnames : (identity.written.map WrittenField.name).Nodup :=
    show ["id", "className"].Nodup by decide
  exact parseWith_eq_ok
    (RecordShape.record_readsBack hnames identity.reads_written rfl "BlockIdentity")

end Identity

namespace Style.Declaration

/-- The fields of a declaration as they are written. -/
def written (d : Declaration) : List (WrittenField Field) :=
  [⟨"property", stringText d.property, .property d.property⟩,
    ⟨"value", stringText d.value, .value d.value⟩]

theorem reads_written (d : Declaration) : ∀ f ∈ d.written, shape.Reads f := by
  simp only [written, List.forall_mem_cons]
  exact ⟨.of_tagged rfl (string_readsBack _), .of_tagged rfl (string_readsBack _),
    List.forall_mem_nil _⟩

theorem parse_jsonText (d : Declaration) : parse d.jsonText = .ok d := by
  have hnames : (d.written.map WrittenField.name).Nodup :=
    show ["property", "value"].Nodup by decide
  exact parseWith_eq_ok (RecordShape.record_readsBack hnames d.reads_written rfl "Declaration")

end Style.Declaration

/-! ### Style attributes -/

namespace StyleAttributes

/-- How many brackets are open at a time, at most, in the text of style attributes. -/
def nesting (state : StyleAttributes) : Nat := (Value.obj state.styles).nesting + 1

/-- The fields of style attributes as they are written. -/
def written (state : StyleAttributes) : List (WrittenField Field) :=
  [⟨"id", stringText state.id, .id state.id⟩,
    ⟨"className", stringText state.className, .className state.className⟩,
    ⟨"styles", (Value.obj state.styles).chars, .styles state.styles⟩]

/-- One bracket is open where the styles begin. -/
theorem reads_written {state : StyleAttributes} (hkeys : (Value.obj state.styles).DistinctKeys)
    {depth : Nat} (hdepth : state.nesting ≤ depth + 1) :
    ∀ f ∈ state.written, (shape (Json.fields depth)).Reads f := by
  simp only [written, List.forall_mem_cons]
  exact ⟨.of_tagged rfl (string_readsBack _), .of_tagged rfl (string_readsBack _),
    .of_tagged rfl (fields_readsBack hkeys (Nat.le_of_succ_le_succ hdepth)),
    List.forall_mem_nil _⟩

theorem parse_text {state : StyleAttributes} (hkeys : (Value.obj state.styles).DistinctKeys)
    (hdepth : state.nesting ≤ Json.nestingLimit) : parse state.text = .ok state := by
  have hnames : (state.written.map WrittenField.name).Nodup :=
    show ["id", "className", "styles"].Nodup by decide
  exact parseWith_eq_ok
    (RecordShape.record_readsBack hnames (reads_written hkeys hdepth) rfl "StyleAttributes")

end StyleAttributes

/-! ### Blocks and documents -/

mutual

/-- How many brackets are open at a time, at most, in the text of a block: its own one, and one for
its attributes or for the list of its inner blocks. -/
def Block.nesting : Block → Nat
  | ⟨_, _, attributes, inner⟩ =>
    max (Value.obj attributes).nesting (blocksNesting inner + 1) + 1

def blocksNesting : List Block → Nat
  | [] => 0
  | b :: blocks => max b.nesting (blocksNesting blocks)

end

theorem Block.beginsItem (b : Block) : BeginsItem b.chars := by
  obtain ⟨clientId, name, attributes, inner⟩ := b
  rw [chars]
  exact ⟨'\x7b', _, rfl, rfl, by decide⟩

/-- The fields of a block as they are written. -/
def Block.written (b : Block) : List (WrittenField Field) :=
  [⟨"clientId", stringText b.clientId, .clientId b.clientId⟩,
    ⟨"name", stringText b.name, .name b.name⟩,
    ⟨"attributes", (Value.obj b.attributes).chars, .attributes b.attributes⟩,
    ⟨"innerBlocks", arrayText (b.innerBlocks.map Block.chars), .innerBlocks b.innerBlocks⟩]

theorem Block.reads_written {b : Block} {attributes : Reader Fields} {inner : Reader Block}
    (hattributes : ReadsBack attributes (Value.obj b.attributes).chars b.attributes)
    (hinner : ∀ c ∈ b.innerBlocks, ReadsBack inner c.chars c) :
    ∀ f ∈ b.written, (shape attributes (Json.listOf (some inner))).Reads f := by
  simp only [written, List.forall_mem_cons]
  exact ⟨.of_tagged rfl (string_readsBack _), .of_tagged rfl (string_readsBack _),
    .of_tagged rfl hattributes,
    .of_tagged rfl (listOf_readsBack (fun c _ => c.beginsItem) hinner), List.forall_mem_nil _⟩

/-- A block reads back, if its attributes are within the nesting and its inner blocks read back. -/
theorem Block.readsBack {b : Block} (hkeys : (Value.obj b.attributes).DistinctKeys) {depth : Nat}
    (hdepth : (Value.obj b.attributes).nesting ≤ depth + 1)
    (hinner : ∀ c ∈ b.innerBlocks, ReadsBack (reader depth) c.chars c) :
    ReadsBack (reader (depth + 2)) b.chars b := by
  have hnames : (b.written.map WrittenField.name).Nodup :=
    show ["clientId", "name", "attributes", "innerBlocks"].Nodup by decide
  have hreads := reads_written (fields_readsBack hkeys hdepth) hinner
  obtain ⟨clientId, name, attributes, inner⟩ := b
  rw [reader, chars, blockTexts_eq_map]
  exact RecordShape.record_readsBack hnames hreads rfl "Block"

namespace Document

/-- How many brackets are open at a time, at most, in the text of a document. -/
def nesting (document : Document) : Nat := blocksNesting document + 1

/-- The objects among the attributes of all blocks are maps, and so are the attributes. -/
def DistinctKeys (document : Document) : Prop :=
  ∀ b ∈ document.preorder, (Value.obj b.attributes).DistinctKeys

theorem distinctKeys_cons {b : Block} {blocks : Document} :
    DistinctKeys (b :: blocks) ↔
      (Value.obj b.attributes).DistinctKeys ∧ DistinctKeys b.innerBlocks ∧
        DistinctKeys blocks := by
  simp only [DistinctKeys, preorder_cons, List.forall_mem_cons, List.forall_mem_append]

/-- The blocks of a document read back at every depth that their nesting allows. -/
theorem blocks_readBack {document : Document} (hkeys : document.DistinctKeys) {depth : Nat}
    (hdepth : blocksNesting document ≤ depth) :
    ∀ b ∈ document, ReadsBack (Block.reader depth) b.chars b := by
  induction document using Document.induction generalizing depth with
  | nil => exact List.forall_mem_nil _
  | cons b blocks ihinner ihblocks =>
      rw [distinctKeys_cons] at hkeys
      obtain ⟨hattributes, hinner, hblocks⟩ := hkeys
      rw [blocksNesting, max_le_iff] at hdepth
      refine List.forall_mem_cons.2 ⟨?_, ihblocks hblocks hdepth.2⟩
      obtain ⟨clientId, name, attributes, inner⟩ := b
      have hfirst := hdepth.1
      rw [Block.nesting] at hfirst
      -- The bracket of the block and one more are there in any case.
      match depth with
      | 0 => omega
      | 1 => omega
      | depth + 2 =>
          have hfields : (Value.obj attributes).nesting ≤ depth + 1 := by omega
          have hblock : blocksNesting inner ≤ depth := by omega
          exact Block.readsBack hattributes hfields (ihinner hinner hblock)

theorem parse_text {document : Document} (hkeys : document.DistinctKeys)
    (hdepth : document.nesting ≤ Json.nestingLimit) : parse document.text = .ok document := by
  have hlist : ReadsBack (reader Json.nestingLimit) (arrayText (document.map Block.chars))
      document :=
    listOf_readsBack (fun b _ => b.beginsItem)
      (blocks_readBack hkeys (Nat.le_of_succ_le_succ hdepth))
  rw [parse, text, blockTexts_eq_map]
  exact parseWith_eq_ok hlist

end Document

/-! ### Options -/

namespace MediaSizes

/-- A name behind all others comes last. -/
theorem insertEntry_of_lt {name : String} {width : UInt32} {entries : List (String × UInt32)}
    (h : ∀ e ∈ entries, e.1 < name) :
    insertEntry name width entries = entries ++ [(name, width)] := by
  induction entries with
  | nil => rfl
  | cons e entries ih =>
      rw [List.forall_mem_cons] at h
      rw [insertEntry, if_neg h.1.ne', if_neg h.1.not_gt, ih h.2, List.cons_append]

/-- Equal entries are equal widths. -/
theorem eq_of_entries {sizes others : MediaSizes} (h : sizes.entries = others.entries) :
    sizes = others := by
  cases sizes
  cases others
  cases h
  rfl

end MediaSizes

namespace StyleOptions

/-- The entries of widths, which are sorted, are collected as they stand. -/
theorem takesUp_sizes {sizes done : MediaSizes} {entries : List (String × UInt32)}
    (h : sizes.entries = done.entries ++ entries) :
    TakesUp sizeEntry done (entries.map fun e => (e.1, Decimal.digits e.2.toNat)) sizes := by
  induction entries generalizing done with
  | nil =>
      rw [List.append_nil] at h
      rw [MediaSizes.eq_of_entries h]
      exact .nil done
  | cons e entries ih =>
      obtain ⟨name, width⟩ := e
      have hbehind : ∀ e ∈ done.entries, e.1 < name := by
        intro e he
        have hsorted := sizes.sorted
        rw [h] at hsorted
        exact (List.pairwise_append.1 hsorted).2.2 e he _ List.mem_cons_self
      have hinsert : (done.insert name width).entries = done.entries ++ [(name, width)] :=
        MediaSizes.insertEntry_of_lt hbehind
      rw [List.append_cons, ← hinsert] at h
      refine .cons ?_ (ih h)
      intro rest hrest
      rw [List.cons_append, sizeEntry, colon_cons]
      simp only [bind, Except.bind, word32_readsBack width rest hrest]

theorem sizes_readBack (sizes : MediaSizes) : ReadsBack sizesReader (sizesChars sizes) sizes :=
  objectOf_readsBack (takesUp_sizes rfl)

/-- The fields of options as they are written. -/
def written (o : StyleOptions) : List (WrittenField Field) :=
  [⟨"escape", (Value.bool o.escape).chars, .escape o.escape⟩,
    ⟨"idRetryBudget", Decimal.digits o.idRetryBudget.toNat, .idRetryBudget o.idRetryBudget⟩,
    ⟨"idLength", Decimal.digits o.idLength.toNat, .idLength o.idLength⟩,
    ⟨"mediaSizes", sizesChars o.mediaSizes, .mediaSizes o.mediaSizes⟩]

theorem reads_written (o : StyleOptions) : ∀ f ∈ o.written, shape.Reads f := by
  simp only [written, List.forall_mem_cons]
  exact ⟨.of_tagged rfl (boolean_readsBack _), .of_tagged rfl (word32_readsBack _),
    .of_tagged rfl (word64_readsBack _), .of_tagged rfl (sizes_readBack _), List.forall_mem_nil _⟩

theorem parse_text (o : StyleOptions) : parse o.text = .ok o := by
  have hnames : (o.written.map WrittenField.name).Nodup :=
    show ["escape", "idRetryBudget", "idLength", "mediaSizes"].Nodup by decide
  exact parseWith_eq_ok (RecordShape.record_readsBack hnames o.reads_written rfl "StyleOptions")

theorem fromJson_text {o : StyleOptions} (h : o.validate = .ok ()) : fromJson o.text = .ok o := by
  simp only [fromJson, parse_text, h]

end StyleOptions

/-! ### Style trees -/

theorem compileJson_text {tree : Style.Tree} (hkeys : (Value.obj tree).DistinctKeys)
    (hdepth : (Value.obj tree).nesting ≤ Json.nestingLimit) (ancestor : String) (escape : Bool) :
    compileJson (Fields.text tree) ancestor escape = .ok (Style.compile tree ancestor escape) := by
  have hread : Value.parse (Fields.text tree) = .ok (.obj tree) :=
    parseWith_eq_ok (Value.readsBack hkeys hdepth)
  rw [compileJson, hread]

/-- **Exchanged data reads back.** Reading the text of a document, of style attributes, of an
identity, of a declaration or of options gives the very same data: the same texts, the same keys in
the same order, integers as integers and floats as the same floats. So the text of a style tree is
compiled as the tree, and valid options are accepted from outside.

The objects in a document or in styles must be maps, as every object is that was built by setting
keys. Their texts must be within the nesting that reading allows, which the texts of the other types
are in any case. -/
theorem parse_text_eq :
    (∀ document : Document, document.DistinctKeys → document.nesting ≤ 127 →
        Document.parse document.text = .ok document) ∧
      (∀ state : StyleAttributes, (Value.obj state.styles).DistinctKeys →
        state.nesting ≤ 127 → StyleAttributes.parse state.text = .ok state) ∧
      (∀ identity : Identity, Identity.parse identity.text = .ok identity) ∧
      (∀ d : Style.Declaration, Style.Declaration.parse d.jsonText = .ok d) ∧
      (∀ o : StyleOptions, StyleOptions.parse o.text = .ok o ∧
        (o.validate = .ok () → StyleOptions.fromJson o.text = .ok o)) ∧
      (∀ tree : Style.Tree, (Value.obj tree).DistinctKeys →
        (Value.obj tree).nesting ≤ 127 → ∀ ancestor escape,
          compileJson (Fields.text tree) ancestor escape =
            .ok (Style.compile tree ancestor escape)) :=
  ⟨fun _ => Document.parse_text, fun _ => StyleAttributes.parse_text, Identity.parse_text,
    Style.Declaration.parse_jsonText,
    fun o => ⟨o.parse_text, StyleOptions.fromJson_text⟩, fun _ => compileJson_text⟩

/-- Attributes with a value of every kind, under keys that are escaped or empty. -/
def mixed : Fields :=
  [("say \"hi\"\n", .str "\\ \u0001 é"), ("zero", .num (.float (.zero true))),
    ("integer", .num (.int ⟨-1, by decide, by decide⟩)),
    ("float", .num (.float ⟨true, 4503599627370496, -52, by decide⟩)),
    ("", .arr [.null, .bool false, .obj [("", .arr [])]])]

theorem mixed_distinctKeys : (Value.obj mixed).DistinctKeys := by
  have hempty : (Value.arr []).DistinctKeys := .arr (List.forall_mem_nil _)
  have hinner : (Value.obj [("", .arr [])]).DistinctKeys :=
    .obj (List.nodup_singleton _) (List.forall_mem_singleton.2 hempty)
  have hkeys : mixed.Distinct :=
    show ["say \"hi\"\n", "zero", "integer", "float", ""].Nodup by decide
  refine .obj hkeys ?_
  simp only [mixed, List.forall_mem_cons]
  refine ⟨.str _, .num _, .num _, .num _, .arr ?_, List.forall_mem_nil _⟩
  simp only [List.forall_mem_cons]
  exact ⟨.null, .bool _, hinner, List.forall_mem_nil _⟩

/-- A block within a block within a block, and one behind them. -/
def threefold : Document :=
  [⟨"a", "t/group", mixed, [⟨"b", "t/inner", [], [⟨"c", "t/leaf", mixed, []⟩]⟩]⟩,
    ⟨"", "t/leaf", [], []⟩]

theorem threefold_distinctKeys : threefold.DistinctKeys := by
  have hempty : (Value.obj []).DistinctKeys := .obj List.nodup_nil (List.forall_mem_nil _)
  have hnil : Document.DistinctKeys [] := by simp [Document.DistinctKeys]
  simp only [threefold, Document.distinctKeys_cons, mixed_distinctKeys, hempty, hnil, and_self]

/-- The nested blocks with all kinds of attributes read back, and so do the same attributes as the
styles of a block and as a style tree of their own. The standard options are valid. -/
theorem parse_text_eq_threefold :
    threefold.nesting = 10 ∧ Document.parse threefold.text = .ok threefold ∧
      StyleAttributes.parse (StyleAttributes.text ⟨"x", "t-group-x", mixed⟩) =
        .ok ⟨"x", "t-group-x", mixed⟩ ∧
      StyleOptions.fromJson StyleOptions.standard.text = .ok StyleOptions.standard ∧
      compileJson (Fields.text mixed) ".t-group-x" true =
        .ok (Style.compile mixed ".t-group-x" true) := by
  obtain ⟨hdocument, hstate, -, -, hoptions, hcompile⟩ := parse_text_eq
  refine ⟨by decide, hdocument threefold threefold_distinctKeys (by decide), ?_,
    (hoptions _).2 rfl, hcompile mixed mixed_distinctKeys (by decide) _ _⟩
  exact hstate ⟨"x", "t-group-x", mixed⟩ mixed_distinctKeys (by decide)

end BlockSheet
