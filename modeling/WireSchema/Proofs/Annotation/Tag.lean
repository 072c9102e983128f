import WireSchema.Model.Basic
import WireSchema.Proofs.Document.Table
import WireSchema.Proofs.Text.Decimals
import WireSchema.Proofs.Text.Segments

namespace WireSchema

/-!
# Tags that are written and read back

What a tag encodes is put together from segments with commas between them: the name first, and then
a number, a type and options, in any order.  White space may stand around segments and around the
equals sign of a segment.  Reading cuts the tag at its commas and each segment at its first equals
sign, so what is read is what was encoded; only a number of more digits than an integer text may
have is read as none.  A tag that is nothing but a hyphen between white space has a meaning of its
own.

A tag text may hold several tags, each under a key.  Its pairs of keys and quoted tags are found one
after the other, and the tag of the first pair under the wanted key is read.
-/

namespace TagInfo

/-! ## Segments -/

/-- A text without white space at its ends.  What the reader of a tag has taken
off is of this kind, so nothing else can be read back from it. -/
def IsTrimmed (text : String) : Prop :=
  Text.trimWhile Text.isBlank text.toList = text.toList

instance (text : String) : Decidable (IsTrimmed text) :=
  inferInstanceAs (Decidable (_ = _))

theorem toList_trim (text : String) :
    (Text.trim text).toList = Text.trimWhile Text.isBlank text.toList :=
  String.toList_ofList

/-- A text with white space around it.  This is all that the reader takes off a
name, a key or a value, so that a padded text is read back where the text itself
is trimmed. -/
def IsPadded (text : String) (cs : List Char) : Prop :=
  ∃ before after, TypeExpr.IsBlankRun before ∧ TypeExpr.IsBlankRun after ∧
    cs = before ++ (text.toList ++ after)

theorem trimWhile_of_isPadded {text : String} {cs : List Char} (trimmed : IsTrimmed text)
    (padded : IsPadded text cs) : Text.trimWhile Text.isBlank cs = text.toList := by
  rcases padded with ⟨before, after, front, back, rfl⟩
  rw [Text.trimWhile_dropped_append front, Text.trimWhile_append_dropped back, trimmed]

theorem notMem_of_isPadded {text : String} {cs : List Char} {c : Char}
    (absent : c ∉ text.toList) (solid : Text.isBlank c = false) (padded : IsPadded text cs) :
    c ∉ cs := by
  rcases padded with ⟨before, after, front, back, rfl⟩
  have apart : ∀ {blanks}, TypeExpr.IsBlankRun blanks → c ∉ blanks := fun run member =>
    Bool.eq_false_iff.mp solid (run c member)
  simp only [List.mem_append, not_or]
  exact ⟨apart front, absent, apart back⟩

/-- A segment of a tag behind its name.  Numbers and types have keys of their
own; every other key is that of an option. -/
inductive Segment where
  | number (number : Nat)
  | type (type : String)
  | option (key value : String)
deriving DecidableEq, Repr

namespace Segment

/-- What stands before the equals sign of a segment. -/
def key : Segment → String
  | .number _ => "number"
  | .type _ => "type"
  | .option name _ => name

/-- What stands behind the equals sign of a segment. -/
def value : Segment → String
  | .number n => toString n
  | .type name => name
  | .option _ content => content

/-- A segment as a text, with any white space around its key and its value.  Only
the first equals sign separates the two; a value may have further ones. -/
def IsWrittenAs (segment : Segment) (text : String) : Prop :=
  ∃ key value, IsPadded segment.key key ∧ IsPadded segment.value value ∧
    text.toList = key ++ '=' :: value

/-- A segment that can be told from what is around it.  Its key ends at the first
equals sign and the segment at the first comma; a value may hold further equals
signs. -/
structure IsPlain (segment : Segment) : Prop where
  key : IsTrimmed segment.key ∧ ',' ∉ segment.key.toList ∧ '=' ∉ segment.key.toList
  value : IsTrimmed segment.value ∧ ',' ∉ segment.value.toList

/-- A segment that can be told from those of other kinds, and a number that
counts.  An option under the key of a number or of a type would be read as
that. -/
def IsOwn : Segment → Prop
  | .number n => 1 ≤ n
  | .type _ => True
  | .option name _ => name ≠ "number" ∧ name ≠ "type"

/-- The number that is read from a segment: no longer one than an integer text may hold. -/
def readNumber? : Segment → Option Int
  | .number n => if n < 10 ^ Text.maxDigits then some n else none
  | _ => none

def readType? : Segment → Option String
  | .type name => some name
  | _ => none

def readOption? : Segment → Option (String × String)
  | .option name content => some (name, content)
  | _ => none

end Segment

/-- The segments of a text, the name first. -/
def segmentsOf (cs : List Char) : List (List Char) :=
  (Text.splitAtEach ',' cs).map (Text.trimWhile Text.isBlank)

theorem segmentsOf_append_comma (front cs : List Char) :
    segmentsOf (front ++ ',' :: cs) = segmentsOf front ++ segmentsOf cs := by
  rw [segmentsOf, Text.splitAtEach_append_cons, List.map_append]
  rfl

theorem segmentsOf_of_notMem {cs : List Char} (single : ',' ∉ cs) :
    segmentsOf cs = [Text.trimWhile Text.isBlank cs] := by
  rw [segmentsOf, Text.splitAtEach_of_notMem single]
  rfl

theorem comma_notMem_of_isBlankRun {blanks : List Char} (run : TypeExpr.IsBlankRun blanks) :
    ',' ∉ blanks :=
  fun member => absurd (run ',' member) (by decide)

theorem segmentsOf_blanks_append {blanks : List Char} (run : TypeExpr.IsBlankRun blanks)
    (cs : List Char) : segmentsOf (blanks ++ cs) = segmentsOf cs := by
  rcases Text.exists_splitAtEach ',' cs with ⟨first, others, split⟩
  rw [segmentsOf, segmentsOf, split,
    Text.splitAtEach_append_of_notMem (comma_notMem_of_isBlankRun run) split, List.map_cons,
    List.map_cons, Text.trimWhile_dropped_append run]

theorem segmentsOf_append_blanks {blanks : List Char} (run : TypeExpr.IsBlankRun blanks)
    (cs : List Char) : segmentsOf (cs ++ blanks) = segmentsOf cs := by
  rcases Text.exists_splitAtEach_append ',' cs with ⟨before, last, own, meets⟩
  have single := Text.splitAtEach_of_notMem (comma_notMem_of_isBlankRun run)
  rw [segmentsOf, segmentsOf, own, meets _ _ _ single, List.map_append, List.map_append,
    List.map_singleton, List.map_singleton, Text.trimWhile_append_dropped run]

/-- White space at the ends of a text is no part of its segments. -/
theorem segmentsOf_trimWhile (cs : List Char) :
    segmentsOf (Text.trimWhile Text.isBlank cs) = segmentsOf cs := by
  rcases Text.exists_eq_append_trimWhile_append Text.isBlank cs with
    ⟨before, after, front, back, whole⟩
  have same : segmentsOf (before ++ (Text.trimWhile Text.isBlank cs ++ after)) =
      segmentsOf (Text.trimWhile Text.isBlank cs) := by
    rw [segmentsOf_blanks_append front, segmentsOf_append_blanks back]
  rw [← whole] at same
  exact same.symm

/-- The segments of texts that are put together with commas are the texts, trimmed. -/
theorem segmentsOf_intercalate {texts : List String} (given : texts ≠ [])
    (each : ∀ text ∈ texts, ',' ∉ text.toList) :
    segmentsOf (String.intercalate "," texts).toList =
      texts.map fun text => Text.trimWhile Text.isBlank text.toList := by
  induction texts with
  | nil => exact absurd rfl given
  | cons text texts ih =>
      rcases List.forall_mem_cons.mp each with ⟨own, others⟩
      by_cases last : texts = []
      · subst last
        rw [String.intercalate_singleton, segmentsOf_of_notMem own]
        rfl
      · have mark : ",".toList = [','] := rfl
        rw [String.intercalate_cons_of_ne_nil last, String.toList_append, String.toList_append,
          mark, List.append_assoc, List.singleton_append, segmentsOf_append_comma,
          segmentsOf_of_notMem own, ih last others]
        rfl

/-! ## Reading segments -/

theorem readSegment_of_notMem (info : TagInfo) {cs : List Char} (absent : '=' ∉ cs) :
    readSegment info cs = info := by
  rw [readSegment, Text.breakAt?_of_notMem absent]

/-- A segment that is written is read with its key and its value. -/
theorem readSegment_of_isWrittenAs {segment : Segment} {text : String} (plain : segment.IsPlain)
    (written : segment.IsWrittenAs text) (info : TagInfo) :
    readSegment info (Text.trimWhile Text.isBlank text.toList) =
      info.addSegment segment.key segment.value := by
  rcases written with ⟨key, value, keyPadded, valuePadded, whole⟩
  rcases plain.key with ⟨keyTrimmed, -, noSign⟩
  have solid : Text.isBlank '=' = false := by decide
  have absent : '=' ∉ key.dropWhile Text.isBlank := fun member =>
    notMem_of_isPadded noSign solid keyPadded ((List.dropWhile_suffix _).subset member)
  have parts : Text.breakAt? ['=']
      (key.dropWhile Text.isBlank ++ '=' :: Text.trimEndWhile Text.isBlank value) =
        some (key.dropWhile Text.isBlank, Text.trimEndWhile Text.isBlank value) := by
    rw [List.append_cons]
    exact Text.breakAt?_append absent
  rw [readSegment, whole, Text.trimWhile_append_cons solid, parts]
  simp only
  rw [Text.trimWhile_dropWhile, Text.trimWhile_trimEndWhile,
    trimWhile_of_isPadded keyTrimmed keyPadded, trimWhile_of_isPadded plain.value.1 valuePadded,
    String.ofList_toList, String.ofList_toList]

theorem notMem_of_isWrittenAs {segment : Segment} {text : String} (plain : segment.IsPlain)
    (written : segment.IsWrittenAs text) : ',' ∉ text.toList := by
  rcases written with ⟨key, value, keyPadded, valuePadded, whole⟩
  have solid : Text.isBlank ',' = false := by decide
  rw [whole, List.mem_append, List.mem_cons, not_or, not_or]
  exact ⟨notMem_of_isPadded plain.key.2.1 solid keyPadded, by decide,
    notMem_of_isPadded plain.value.2 solid valuePadded⟩

theorem notMem_of_forall₂_isWrittenAs {segments : List Segment} {texts : List String}
    (plain : ∀ segment ∈ segments, segment.IsPlain)
    (written : List.Forall₂ Segment.IsWrittenAs segments texts) :
    ∀ text ∈ texts, ',' ∉ text.toList := by
  induction written with
  | nil => exact List.forall_mem_nil _
  | cons own _ ih =>
      rcases List.forall_mem_cons.mp plain with ⟨first, others⟩
      exact List.forall_mem_cons.mpr ⟨notMem_of_isWrittenAs first own, ih others⟩

/-- What the segments of a tag add, one after the other.  A later segment
replaces what an earlier one of its key has set, so that their order matters as
long as keys repeat. -/
def addSegments (info : TagInfo) (segments : List Segment) : TagInfo :=
  segments.foldl (fun info segment => info.addSegment segment.key segment.value) info

theorem foldl_readSegment {segments : List Segment} {texts : List String}
    (plain : ∀ segment ∈ segments, segment.IsPlain)
    (written : List.Forall₂ Segment.IsWrittenAs segments texts) (info : TagInfo) :
    (texts.map fun text => Text.trimWhile Text.isBlank text.toList).foldl readSegment info =
      info.addSegments segments := by
  induction written generalizing info with
  | nil => rfl
  | cons own _ ih =>
      rcases List.forall_mem_cons.mp plain with ⟨first, others⟩
      rw [List.map_cons, List.foldl_cons, readSegment_of_isWrittenAs first own, ih others]
      rfl

/-- A text that holds a name and segments, with commas between them and white
space around them.  The texts are related to the segments one by one, which
leaves every choice of white space open. -/
def IsTag (name : String) (segments : List Segment) (tag : String) : Prop :=
  ∃ first texts, IsPadded name first.toList ∧ List.Forall₂ Segment.IsWrittenAs segments texts ∧
    tag = String.intercalate "," (first :: texts)

/-- A name that can be told from segments and from what is around it.  A comma
would end it, and with an equals sign it would be read as a segment. -/
structure IsPlainName (name : String) : Prop where
  trimmed : IsTrimmed name
  noComma : ',' ∉ name.toList
  noSign : '=' ∉ name.toList

/-- A tag that holds something, and not a hyphen alone, is read segment by segment. -/
theorem parse_of_segmentsOf {tag : String} {first : List Char} {others : List (List Char)}
    (found : segmentsOf tag.toList = first :: others)
    (given : Text.trimWhile Text.isBlank tag.toList ≠ [])
    (other : Text.trimWhile Text.isBlank tag.toList ≠ ['-']) (noSign : '=' ∉ first) :
    parse tag = others.foldl readSegment { name := String.ofList first } := by
  rw [← segmentsOf_trimWhile] at found
  have named : first.contains '=' = false :=
    Bool.eq_false_iff.mpr fun holds => noSign (List.contains_iff_mem.mp holds)
  unfold segmentsOf at found
  rw [parse]
  simp only [found]
  rw [if_neg (by simpa using given), if_neg other, List.headD_cons, named, List.foldl_cons,
    readSegment_of_notMem _ noSign]
  rfl

/-- The segments of a tag are its name and the segments behind it, trimmed. -/
theorem exists_segmentsOf_of_isTag {name tag : String} {segments : List Segment}
    (named : IsPlainName name) (plain : ∀ segment ∈ segments, segment.IsPlain)
    (written : IsTag name segments tag) :
    ∃ texts, List.Forall₂ Segment.IsWrittenAs segments texts ∧
      segmentsOf tag.toList =
        name.toList :: texts.map fun text => Text.trimWhile Text.isBlank text.toList := by
  rcases written with ⟨first, texts, padded, each, rfl⟩
  have noComma : ∀ text ∈ first :: texts, ',' ∉ text.toList :=
    List.forall_mem_cons.mpr ⟨notMem_of_isPadded named.noComma (by decide) padded,
      notMem_of_forall₂_isWrittenAs plain each⟩
  have found := segmentsOf_intercalate (List.cons_ne_nil first texts) noComma
  rw [List.map_cons, trimWhile_of_isPadded named.trimmed padded] at found
  exact ⟨texts, each, found⟩

/-- A tag is read segment by segment, but for a hyphen alone. -/
theorem parse_of_isTag {name tag : String} {segments : List Segment} (named : IsPlainName name)
    (plain : ∀ segment ∈ segments, segment.IsPlain) (written : IsTag name segments tag)
    (other : Text.trim tag ≠ "-") : parse tag = addSegments { name } segments := by
  rcases exists_segmentsOf_of_isTag named plain written with ⟨texts, each, found⟩
  by_cases given : Text.trimWhile Text.isBlank tag.toList = []
  · -- An empty tag is read as one without a name and without segments.
    rw [← segmentsOf_trimWhile, given] at found
    have empty := List.cons.inj (found : [[]] = _)
    rw [String.toList_eq_nil_iff.mp empty.1.symm]
    cases each with
    | nil =>
        rw [parse]
        simp only [given]
        rfl
    | cons => cases empty.2
  · have solid : Text.trimWhile Text.isBlank tag.toList ≠ ['-'] := fun hyphen =>
      other (by rw [Text.trim, hyphen])
    rw [parse_of_segmentsOf found given solid named.noSign, String.ofList_toList,
      foldl_readSegment plain each]

/-- A hyphen alone leaves the field out. -/
theorem parse_of_trim_eq {tag : String} (hyphen : Text.trim tag = "-") :
    parse tag = { ignored := true } := by
  have only : Text.trimWhile Text.isBlank tag.toList = ['-'] := by
    rw [← toList_trim, hyphen]
    rfl
  rw [parse]
  simp only [only]
  rfl

/-! ## What segments add up to -/

theorem addSegment_number (info : TagInfo) {n : Nat} (positive : 1 ≤ n) :
    info.addSegment "number" (toString n) =
      { info with number := (Segment.number n).readNumber?.or info.number } := by
  rw [addSegment, if_pos rfl, Text.readInteger?_toString]
  by_cases short : n < 10 ^ Text.maxDigits
  · have counts : (0 : Int) < n := by omega
    rw [Segment.readNumber?, if_pos short]
    simp only
    rw [if_pos counts]
    rfl
  · rw [Segment.readNumber?, if_neg short]
    rfl

theorem addSegment_option (info : TagInfo) {name : String} (noNumber : name ≠ "number")
    (noType : name ≠ "type") (content : String) :
    info.addSegment name content = { info with options := setKey name content info.options } := by
  rw [addSegment, if_neg noNumber, if_neg noType]

/-- Of the numbers and of the types that are read the last counts, and options are set one after the
other. -/
theorem addSegments_eq {segments : List Segment} (own : ∀ segment ∈ segments, segment.IsOwn)
    (info : TagInfo) :
    info.addSegments segments =
      { info with
        number := (segments.filterMap Segment.readNumber?).getLast?.or info.number
        type := (segments.filterMap Segment.readType?).getLastD info.type
        options := (segments.filterMap Segment.readOption?).foldl
          (fun options option => setKey option.1 option.2 options) info.options } := by
  induction segments generalizing info with
  | nil => rfl
  | cons segment segments ih =>
      rcases List.forall_mem_cons.mp own with ⟨first, others⟩
      have step : info.addSegments (segment :: segments) =
          (info.addSegment segment.key segment.value).addSegments segments := rfl
      rw [step, ih others]
      cases segment with
      | number n =>
          have added : info.addSegment (Segment.number n).key (Segment.number n).value =
            { info with number := (Segment.number n).readNumber?.or info.number } :=
            addSegment_number info first
          rw [added]
          cases read : (Segment.number n).readNumber? with
          | none =>
              rw [List.filterMap_cons_none read]
              rfl
          | some number =>
              rw [List.filterMap_cons_some read, List.getLast?_cons]
              cases (segments.filterMap Segment.readNumber?).getLast? <;> rfl
      | type name =>
          have read : Segment.readType? (Segment.type name) = some name := rfl
          rw [List.filterMap_cons_some read, List.getLastD_cons]
          rfl
      | option name content =>
          have added : info.addSegment (Segment.option name content).key
              (Segment.option name content).value =
                { info with options := setKey name content info.options } :=
            addSegment_option info first.1 first.2 content
          rw [added]
          rfl

/-- A list with the members of an option, in any order, has them in their order. -/
theorem eq_toList_of_perm {α : Type} {items : List α} {member : Option α}
    (same : items.Perm member.toList) : items = member.toList := by
  cases member with
  | none => exact List.perm_nil.mp same
  | some member => exact List.perm_singleton.mp same

end TagInfo

/-! ## What a tag encodes -/

structure TagContent where
  name : String
  number : Option Nat
  type : Option String
  options : List (String × String)

namespace TagContent

open TagInfo

/-- The segments for what is encoded, behind the name. -/
def segments (content : TagContent) : List Segment :=
  content.number.toList.map .number ++ content.type.toList.map .type ++
    content.options.map fun option => .option option.1 option.2

/-- A text that encodes this content: the segments in any order behind the name.
Only the name has a fixed place, since it is the one segment that has no key. -/
def IsWrittenAs (content : TagContent) (tag : String) : Prop :=
  ∃ segments, segments.Perm content.segments ∧ IsTag content.name segments tag

/-- Content that a tag can encode.  No key and no value may hold a mark that ends
it, and no option may have the key of a number or a type; keys are distinct, so
that segments may change places. -/
structure IsEncodable (content : TagContent) : Prop where
  name : IsPlainName content.name
  number : ∀ n ∈ content.number, 1 ≤ n
  type : ∀ type ∈ content.type, IsTrimmed type ∧ ',' ∉ type.toList
  keys : ∀ option ∈ content.options, IsTrimmed option.1 ∧ ',' ∉ option.1.toList ∧
    '=' ∉ option.1.toList ∧ option.1 ≠ "number" ∧ option.1 ≠ "type"
  values : ∀ option ∈ content.options, IsTrimmed option.2 ∧ ',' ∉ option.2.toList
  distinct : (content.options.map (·.1)).Nodup

theorem isPlain_of_mem_segments {content : TagContent} (encodable : content.IsEncodable)
    {segment : Segment} (inside : segment ∈ content.segments) :
    segment.IsPlain ∧ segment.IsOwn := by
  have words : ∀ word ∈ ["number", "type"],
      IsTrimmed word ∧ ',' ∉ word.toList ∧ '=' ∉ word.toList := by decide
  simp only [segments, List.mem_append, List.mem_map, Option.mem_toList] at inside
  rcases inside with (⟨n, given, rfl⟩ | ⟨type, given, rfl⟩) | ⟨option, among, rfl⟩
  · have digits : (Segment.number n).value.toList = Nat.toDigits 10 n := by
      rw [Segment.value, Nat.toString_eq_repr, Nat.toList_repr]
    refine ⟨⟨words "number" (by decide), ?_, ?_⟩, encodable.number n given⟩
    · rw [IsTrimmed, digits]
      exact (Text.HasDigitEnds.toDigits n).trimWhile_isBlank
    · rw [digits]
      exact Text.notMem_toDigits rfl n
  · exact ⟨⟨words "type" (by decide), encodable.type type given⟩, trivial⟩
  · rcases encodable.keys option among with ⟨trimmed, noComma, noSign, own⟩
    exact ⟨⟨⟨trimmed, noComma, noSign⟩, encodable.values option among⟩, own⟩

/-- What is read of the number that is encoded: nothing, if it is too long for an integer text. -/
def readNumber? (content : TagContent) : Option Int :=
  content.number.bind fun n => (Segment.number n).readNumber?

theorem filterMap_segments {α : Type} (read : Segment → Option α) (content : TagContent) :
    content.segments.filterMap read =
      content.number.toList.filterMap (fun n => read (.number n)) ++
        content.type.toList.filterMap (fun type => read (.type type)) ++
        content.options.filterMap fun option => read (.option option.1 option.2) := by
  rw [segments, List.filterMap_append, List.filterMap_append, List.filterMap_map,
    List.filterMap_map, List.filterMap_map]
  rfl

theorem filterMap_toList {α β : Type} (read : α → Option β) (member : Option α) :
    member.toList.filterMap read = (member.bind read).toList := by
  cases member with
  | none => rfl
  | some item =>
      rw [Option.toList_some, List.filterMap_cons, Option.bind_some]
      cases read item <;> rfl

theorem filterMap_readNumber?_segments (content : TagContent) :
    content.segments.filterMap Segment.readNumber? = content.readNumber?.toList := by
  rw [filterMap_segments, filterMap_toList, readNumber?]
  simp [Segment.readNumber?]

theorem filterMap_readType?_segments (content : TagContent) :
    content.segments.filterMap Segment.readType? = content.type.toList := by
  simp [filterMap_segments, Segment.readType?]

theorem filterMap_readOption?_segments (content : TagContent) :
    content.segments.filterMap Segment.readOption? = content.options := by
  simp [filterMap_segments, Segment.readOption?]

theorem getLast?_toList {α : Type} (member : Option α) : member.toList.getLast? = member := by
  cases member <;> rfl

/-- A text that encodes content is read as that content, with the options in some order. -/
theorem exists_parse_eq {content : TagContent} {tag : String} (encodable : content.IsEncodable)
    (written : content.IsWrittenAs tag) (other : Text.trim tag ≠ "-") :
    ∃ options, options.Perm content.options ∧
      parse tag =
        { name := content.name, number := content.readNumber?
          type := content.type.getD "", options } := by
  rcases written with ⟨segments, order, written⟩
  have each : ∀ segment ∈ segments, segment.IsPlain ∧ segment.IsOwn := fun segment inside =>
    isPlain_of_mem_segments encodable (order.subset inside)
  have numbers : segments.filterMap Segment.readNumber? = content.readNumber?.toList :=
    eq_toList_of_perm (filterMap_readNumber?_segments content ▸ order.filterMap _)
  have types : segments.filterMap Segment.readType? = content.type.toList :=
    eq_toList_of_perm (filterMap_readType?_segments content ▸ order.filterMap _)
  have options : (segments.filterMap Segment.readOption?).Perm content.options :=
    filterMap_readOption?_segments content ▸ order.filterMap _
  have distinct : (segments.filterMap Segment.readOption?).Pairwise
      fun earlier later => (earlier.1 == later.1) = false := by
    have keys := (options.map (·.1)).nodup_iff.mpr encodable.distinct
    exact (List.pairwise_map.mp keys).imp fun apart => beq_eq_false_iff_ne.mpr apart
  refine ⟨segments.filterMap Segment.readOption?, options, ?_⟩
  rw [parse_of_isTag encodable.name (fun segment inside => (each segment inside).1) written other,
    addSegments_eq fun segment inside => (each segment inside).2, numbers, types, getLast?_toList,
    ← setKeys, setKeys_eq_self distinct, Option.or_none]
  cases content.type <;> rfl

/-- A text that encodes a name other than a hyphen is not a hyphen alone. -/
theorem trim_ne_of_name_ne {content : TagContent} {tag : String} (encodable : content.IsEncodable)
    (written : content.IsWrittenAs tag) (named : content.name ≠ "-") : Text.trim tag ≠ "-" := by
  rcases written with ⟨segments, order, written⟩
  have plain : ∀ segment ∈ segments, segment.IsPlain := fun segment inside =>
    (isPlain_of_mem_segments encodable (order.subset inside)).1
  rcases exists_segmentsOf_of_isTag encodable.name plain written with ⟨texts, -, found⟩
  intro hyphen
  have only : Text.trimWhile Text.isBlank tag.toList = ['-'] := by
    rw [← toList_trim, hyphen]
    rfl
  rw [← segmentsOf_trimWhile, only] at found
  have same := (List.cons.inj (found : [['-']] = _)).1
  exact named (String.toList_inj.mp same.symm)

end TagContent

/-! ## Several tags in one text -/

namespace TagInfo

/-- Text without a character of a key.  A character of that kind would lengthen
the key that follows. -/
def IsGap (cs : List Char) : Prop :=
  ∀ c ∈ cs, Text.isWordChar c = false

theorem isGap_of_isBlankRun {cs : List Char} (run : TypeExpr.IsBlankRun cs) : IsGap cs := by
  intro c member
  have other := TypeExpr.isNameChar_of_isBlank (run c member)
  rw [TypeExpr.isNameChar, Bool.or_eq_false_iff] at other
  exact other.1

/-- A text that holds pairs of keys and quoted tags, with gaps between them and
at both ends.  A gap has no character of a key, or it would lengthen the key
behind it; a tag ends at the next quotation mark, whatever else it holds. -/
inductive HasPairs : List (String × String) → List Char → Prop where
  | nil {gap : List Char} (bare : IsGap gap) : HasPairs [] gap
  | cons {gap rest : List Char} {key tag : String} {pairs : List (String × String)}
      (bare : IsGap gap) (given : key ≠ "") (word : ∀ c ∈ key.toList, Text.isWordChar c = true)
      (quoted : '"' ∉ tag.toList) (others : HasPairs pairs rest) :
      HasPairs ((key, tag) :: pairs)
        (gap ++ (key.toList ++ ':' :: '"' :: (tag.toList ++ '"' :: rest)))

theorem quotedValue?_quoted {value : List Char} (quoted : '"' ∉ value) (rest : List Char) :
    quotedValue? (':' :: '"' :: (value ++ '"' :: rest)) = some (value, rest) := by
  have inside : ∀ c ∈ value, (c != '"') = true := fun c member =>
    bne_iff_ne.mpr fun same => quoted (same ▸ member)
  have cut : (value ++ '"' :: rest).dropWhile (· != '"') = '"' :: rest := by
    rw [List.dropWhile_append_of_pos inside]
    rfl
  have taken : (value ++ '"' :: rest).takeWhile (· != '"') = value := by
    rw [List.takeWhile_append_of_pos inside]
    exact List.append_nil value
  rw [quotedValue?, cut, taken]
  rfl

theorem pairs_gap_append {gap : List Char} (bare : IsGap gap) (cs : List Char) :
    pairs (gap ++ cs) = pairs cs := by
  induction gap with
  | nil => rfl
  | cons c gap ih =>
      rcases List.forall_mem_cons.mp bare with ⟨first, others⟩
      rw [List.cons_append, pairs, if_neg (Bool.eq_false_iff.mp first), ih others]

/-- The pairs of a text that holds pairs are found in their order. -/
theorem pairs_of_hasPairs {expected : List (String × String)} {cs : List Char}
    (holds : HasPairs expected cs) : pairs cs = expected := by
  induction holds with
  | @nil gap bare =>
      have found := pairs_gap_append bare []
      rwa [List.append_nil, pairs] at found
  | @cons gap rest key tag expected bare given word quoted others ih =>
      rw [pairs_gap_append bare]
      rcases List.exists_cons_of_ne_nil (mt String.toList_eq_nil_iff.mp given) with ⟨c, tail, whole⟩
      rw [whole] at word ⊢
      rcases List.forall_mem_cons.mp word with ⟨first, inner⟩
      have stops : ¬Text.isWordChar ':' = true := by decide
      have cut : (tail ++ ':' :: '"' :: (tag.toList ++ '"' :: rest)).dropWhile Text.isWordChar =
          ':' :: '"' :: (tag.toList ++ '"' :: rest) := by
        rw [List.dropWhile_append_of_pos inner, List.dropWhile_cons_of_neg stops]
      have taken : (tail ++ ':' :: '"' :: (tag.toList ++ '"' :: rest)).takeWhile Text.isWordChar =
          tail := by
        rw [List.takeWhile_append_of_pos inner, List.takeWhile_cons_of_neg stops, List.append_nil]
      rw [List.cons_append, pairs, if_pos first, taken]
      split
      · rename_i value after found
        rw [cut, quotedValue?_quoted quoted] at found
        cases found
        rw [ih, ← whole, String.ofList_toList, String.ofList_toList]
      · rename_i found
        rw [cut, quotedValue?_quoted quoted] at found
        cases found

/-- The tag under a key is that of the first pair with the key, or an empty one. -/
theorem ofText_of_hasPairs {text : String} {expected : List (String × String)} (key : Value)
    (holds : HasPairs expected text.toList) (given : expected ≠ []) :
    ofText key text =
      match expected.find? fun pair => Value.text pair.1 == key with
      | some pair => parse pair.2
      | none => {} := by
  rw [ofText, pairs_of_hasPairs holds]
  cases expected with
  | nil => exact absurd rfl given
  | cons first others =>
      change parse ((((first :: others).find? fun pair => Value.text pair.1 == key).map (·.2)).getD
        "") = _
      cases (first :: others).find? fun pair => Value.text pair.1 == key with
      | none => rfl
      | some pair => rfl

end TagInfo

/-- What a field's tag says is what is encoded under the model's tag key, of which the first one
counts. -/
theorem Model.tagOf_of_hasPairs (model : Model) {field : DeclaredField} {text : String}
    {pairs : List (String × String)} (tagged : field.tag = .text text)
    (holds : TagInfo.HasPairs pairs text.toList) (given : pairs ≠ []) :
    model.tagOf field = .ok
      (match pairs.find? fun pair => Value.text pair.1 == model.tagName with
      | some pair => TagInfo.parse pair.2
      | none => {}) := by
  have content : ((Value.text text).orElse (.text "")).admitText = .ok text := by
    rw [Value.orElse, Value.isTruthy]
    by_cases empty : text = ""
    · rw [empty]
      rfl
    · rw [if_pos (bne_iff_ne.mpr empty)]
      rfl
  rw [Model.tagOf, TagInfo.ofValue, tagged, content, ← TagInfo.ofText_of_hasPairs _ holds given]
  rfl

/-! ## Both readings -/

/-- What is encoded in a tag is read back, but for a number that is too long for an integer text; a
hyphen alone leaves the field out; and of the tags in a text the first one under the model's tag key
is read. -/
theorem tag_readBack :
    (∀ (content : TagContent) (tag : String), content.IsEncodable → content.IsWrittenAs tag →
      Text.trim tag ≠ "-" →
      ∃ options, options.Perm content.options ∧
        TagInfo.parse tag =
          { name := content.name
            number := content.number.bind fun n =>
              if n < 10 ^ Text.maxDigits then some (n : Int) else none
            type := content.type.getD "", options }) ∧
    (∀ tag : String, Text.trim tag = "-" → TagInfo.parse tag = { ignored := true }) ∧
    ∀ (model : Model) (field : DeclaredField) (text : String) (pairs : List (String × String)),
      field.tag = .text text → TagInfo.HasPairs pairs text.toList → pairs ≠ [] →
      model.tagOf field = .ok
        (match pairs.find? fun pair => Value.text pair.1 == model.tagName with
        | some pair => TagInfo.parse pair.2
        | none => {}) :=
  ⟨fun _ _ encodable written other => TagContent.exists_parse_eq encodable written other,
    fun _ hyphen => TagInfo.parse_of_trim_eq hyphen,
    fun model _ _ _ tagged holds given => model.tagOf_of_hasPairs tagged holds given⟩

/-- Content with a number, a type and an option. -/
def sampleContent : TagContent :=
  ⟨"full_name", some 2, some "sint64", [("json_name", "fullName")]⟩

/-- A text that encodes the content, in another order and with white space. -/
def sampleTag : String := " full_name,type =\tsint64 , json_name=fullName,number= 2"

theorem isEncodable_sampleContent : sampleContent.IsEncodable :=
  ⟨⟨by decide, by decide, by decide⟩, by decide, by decide, by decide, by decide, by decide⟩

theorem isWrittenAs_sampleTag : sampleContent.IsWrittenAs sampleTag := by
  have none : TypeExpr.IsBlankRun [] := by decide
  have blank : TypeExpr.IsBlankRun [' '] := by decide
  have tab : TypeExpr.IsBlankRun ['\t'] := by decide
  refine ⟨[.type "sint64", .option "json_name" "fullName", .number 2], by decide,
    " full_name", ["type =\tsint64 ", " json_name=fullName", "number= 2"],
    ⟨[' '], [], blank, none, rfl⟩, ?_, by decide⟩
  refine .cons ⟨_, _, ⟨[], [' '], none, blank, rfl⟩, ⟨['\t'], [' '], tab, blank, rfl⟩, by decide⟩ ?_
  refine .cons ⟨_, _, ⟨[' '], [], blank, none, rfl⟩, ⟨[], [], none, none, rfl⟩, by decide⟩ ?_
  exact .cons ⟨_, _, ⟨[], [], none, none, rfl⟩, ⟨[' '], [], blank, none, rfl⟩, by decide⟩ .nil

/-- A field with this tag under the key that a model has by itself, behind another one. -/
def sampleField : DeclaredField :=
  { name := .text "Name", type := .named "string" ""
    tag := .text ("json:\"name\" proto:\"" ++ sampleTag ++ "\"") }

theorem hasPairs_sampleField :
    TagInfo.HasPairs [("json", "name"), ("proto", sampleTag)]
      ("json:\"name\" proto:\"" ++ sampleTag ++ "\"").toList := by
  have whole : ("json:\"name\" proto:\"" ++ sampleTag ++ "\"").toList =
      [] ++ ("json".toList ++ ':' :: '"' :: ("name".toList ++ '"' ::
        ([' '] ++ ("proto".toList ++ ':' :: '"' :: (sampleTag.toList ++ '"' :: []))))) := by
    decide
  rw [whole]
  have json : "json".toList.all Text.isWordChar = true := by decide
  have proto : "proto".toList.all Text.isWordChar = true := by decide
  refine .cons (List.forall_mem_nil _) (by decide) (List.all_eq_true.mp json) (by decide) ?_
  refine .cons (TagInfo.isGap_of_isBlankRun (by decide)) (by decide) (List.all_eq_true.mp proto)
    (by decide) ?_
  exact .nil (List.forall_mem_nil _)

/-- The sample tag is read back, and so is the field that has it as its second tag. -/
theorem tag_readBack_sampleField :
    sampleContent.IsEncodable ∧ sampleContent.IsWrittenAs sampleTag ∧
      Text.trim sampleTag ≠ "-" ∧
      TagInfo.parse sampleTag =
        ⟨"full_name", false, some 2, "sint64", [("json_name", "fullName")]⟩ ∧
      Model.tagOf {} sampleField =
        .ok ⟨"full_name", false, some 2, "sint64", [("json_name", "fullName")]⟩ := by
  rcases tag_readBack with ⟨encoded, -, tagged⟩
  have other : Text.trim sampleTag ≠ "-" := by decide
  rcases encoded sampleContent sampleTag isEncodable_sampleContent isWrittenAs_sampleTag other with
    ⟨options, same, read⟩
  have small : 2 < 10 ^ Text.maxDigits :=
    Nat.lt_of_lt_of_le (by decide : 2 < 10 ^ 1) (Nat.pow_le_pow_right (by decide) (by decide))
  rw [List.perm_singleton.mp same] at read
  simp only [sampleContent, Option.bind_some, if_pos small, Option.getD_some] at read
  have second := tagged {} sampleField _ _ rfl hasPairs_sampleField (List.cons_ne_nil _ _)
  refine ⟨isEncodable_sampleContent, isWrittenAs_sampleTag, other, read, ?_⟩
  rw [second]
  exact congrArg Except.ok read

theorem parse_of_tooLong {n : Nat} (long : 10 ^ Text.maxDigits ≤ n) :
    TagContent.IsEncodable ⟨"id", some n, none, []⟩ ∧
      TagContent.IsWrittenAs ⟨"id", some n, none, []⟩ ("id,number=" ++ toString n) ∧
      (TagInfo.parse ("id,number=" ++ toString n)).number = none := by
  have positive : 1 ≤ n := Nat.le_trans (Nat.one_le_pow _ _ (by decide)) long
  have named : TagInfo.IsPlainName "id" := ⟨by decide, by decide, by decide⟩
  have encodable : TagContent.IsEncodable ⟨"id", some n, none, []⟩ := by
    refine ⟨named, fun m given => ?_, by simp, by simp, by simp, by simp⟩
    cases given
    exact positive
  have written : TagContent.IsWrittenAs ⟨"id", some n, none, []⟩ ("id,number=" ++ toString n) := by
    have bare (text : String) : TagInfo.IsPadded text text.toList :=
      ⟨[], [], List.forall_mem_nil _, List.forall_mem_nil _, (List.append_nil _).symm⟩
    refine ⟨[.number n], .refl _, "id", ["number=" ++ toString n], bare "id",
      .cons ⟨_, _, bare _, bare _, ?_⟩ .nil, ?_⟩
    · have key : "number=".toList = "number".toList ++ ['='] := by decide
      rw [String.toList_append, key, List.append_assoc]
      rfl
    · rw [String.intercalate_cons_of_ne_nil (List.cons_ne_nil _ _), String.intercalate_singleton,
        ← String.append_assoc]
      rfl
  rcases TagContent.exists_parse_eq encodable written
    (TagContent.trim_ne_of_name_ne encodable written (by simp)) with ⟨options, -, read⟩
  refine ⟨encodable, written, ?_⟩
  rw [read, TagContent.readNumber?, Option.bind_some, TagInfo.Segment.readNumber?,
    if_neg (Nat.not_lt.mpr long)]

/-- A number that is too long for an integer text, and a hyphen between white space, are not read
back. -/
theorem parse_tooLong_hyphen :
    (TagContent.IsEncodable ⟨"id", some (10 ^ Text.maxDigits), none, []⟩ ∧
      TagContent.IsWrittenAs ⟨"id", some (10 ^ Text.maxDigits), none, []⟩
        ("id,number=" ++ toString (10 ^ Text.maxDigits)) ∧
      (TagInfo.parse ("id,number=" ++ toString (10 ^ Text.maxDigits))).number = none) ∧
    (TagContent.IsEncodable ⟨"-", none, none, []⟩ ∧
      TagContent.IsWrittenAs ⟨"-", none, none, []⟩ " - " ∧
      TagInfo.parse " - " = { ignored := true }) := by
  have blank : TypeExpr.IsBlankRun [' '] := by decide
  refine ⟨?_, ?_, ?_, by decide⟩
  · exact parse_of_tooLong le_rfl
  · exact ⟨⟨by decide, by decide, by decide⟩, by simp, by simp, by simp, by simp, by simp⟩
  · exact ⟨[], .refl _, " - ", [], ⟨[' '], [' '], blank, blank, rfl⟩, .nil, rfl⟩

end WireSchema
