import TimedPublishing.Proofs.Url.Segments

/-!
# Endpoints of contents

The endpoint of a content is its base url with another path, and the written path is that of the
base, less a slash at its end, with what the content's standing adds. So two contents have one
endpoint exactly if they have the same standing. A content whose name is encoded whole stands in its
endpoint as one segment that is decoded to the name, and among such contents no two have the same
endpoint. A name that is a dot segment, or that holds a tab or a line break, is not found in its
endpoint; one that is left as two dots even takes the endpoint out from below the word `content`.
-/

namespace TimedPublishing.Url

/-! ### Written paths -/

namespace Path

/-- A written path has a slash before each segment. -/
theorem toList_text (path : List String) :
    (text path).toList = path.flatMap fun segment => '/' :: segment.toList := by
  rw [text, String.toList_join, List.flatMap_map]
  refine congrArg (List.flatMap · path) (funext fun segment => ?_)
  rw [String.toList_append]
  rfl

theorem text_append (path other : List String) :
    text (path ++ other) = text path ++ text other := by
  rw [← String.toList_inj, String.toList_append, toList_text, toList_text, toList_text,
    List.flatMap_append]

/-- Only the path of one empty segment is written as the root. -/
theorem toList_text_eq_root {path : List String} : (text path).toList = ['/'] ↔ path = [""] := by
  rw [toList_text]
  cases path with
  | nil => simp
  | cons first rest => cases rest <;> simp

end Path

/-- A written path without one slash at its end. If that is the root, nothing is left. -/
def foundation (written : List Char) : List Char :=
  let cut := if written.getLast? = some '/' then written.dropLast else written
  if cut = ['/'] then [] else cut

/-- Taking off an empty segment at the end, of which the root has only the one. -/
theorem withoutTrailingSlash_concat (front : List String) (last : String) :
    withoutTrailingSlash (front ++ [last]) =
      if last = "" ∧ front ≠ [] then front else front ++ [last] := by
  have ends : (front ++ [last]).getLast? = some last := List.getLast?_concat
  have less : (front ++ [last]).dropLast = front := List.dropLast_concat
  unfold withoutTrailingSlash
  split
  next one two others same =>
    have longer : front ≠ [] := by
      rintro rfl
      cases same
    simp only [ends, less, Option.some.injEq, longer, ne_eq, not_false_eq_true, and_true]
  next shorter =>
    rw [if_neg]
    rintro ⟨-, longer⟩
    obtain ⟨one, rest, rfl⟩ := List.exists_cons_of_ne_nil longer
    obtain ⟨two, others, same⟩ := List.exists_cons_of_ne_nil (List.concat_ne_nil last rest)
    exact shorter one two others (congrArg (one :: ·) same)

/-- The stem of a path is written as the path is, without a slash at its end. -/
theorem toList_text_stem {path : List String} (proper : Path.Proper path) :
    (Path.text (stem path)).toList = foundation (Path.text path).toList := by
  obtain rfl | ⟨front, last, rfl⟩ := List.eq_nil_or_concat' path
  · rfl
  have behind : (Path.text (front ++ [last])).toList =
      (Path.text front).toList ++ '/' :: last.toList := by
    rw [Path.text_append, String.toList_append, Path.toList_text [last], List.flatMap_singleton]
  rw [stem, withoutTrailingSlash_concat]
  by_cases slash : last = ""
  · subst slash
    by_cases root : front = []
    · subst root
      rfl
    · have cut : (Path.text (front ++ [""])).toList.getLast? = some '/' ∧
          (Path.text (front ++ [""])).toList.dropLast = (Path.text front).toList := by
        rw [behind]
        exact ⟨List.getLast?_concat, List.dropLast_concat⟩
      have taken : "" = "" ∧ front ≠ [] := ⟨rfl, root⟩
      rw [if_pos taken, foundation, if_pos cut.1, cut.2]
      simp only [Path.toList_text_eq_root]
      split_ifs <;> rfl
  · have noRoot : front ++ [last] ≠ [""] := by simp [List.append_eq_singleton_iff, slash]
    have noSlash : (Path.text (front ++ [last])).toList.getLast? ≠ some '/' := by
      obtain ⟨init, final, same⟩ := (List.eq_nil_or_concat' last.toList).resolve_left
        (fun none => slash (String.toList_eq_nil_iff.mp none))
      have inside := proper last (List.mem_append_right front (List.mem_singleton_self last))
      rw [behind, same, ← List.cons_append, ← List.append_assoc, List.getLast?_concat]
      rintro isSlash
      cases isSlash
      exact inside (same ▸ List.mem_append_right init (List.mem_singleton_self '/'))
    have noChange : ¬(last = "" ∧ front ≠ []) := fun both => slash both.1
    rw [if_neg noChange, if_neg noRoot, foundation, if_neg noSlash]
    exact (if_neg (Path.toList_text_eq_root.not.mpr noRoot)).symm

/-- The stem is empty where nothing is left of the written path. -/
theorem stem_eq_nil_iff {path : List String} (proper : Path.Proper path) :
    stem path = [] ↔ foundation (Path.text path).toList = [] := by
  rw [← toList_text_stem proper, Path.toList_text]
  cases stem path <;> simp only [List.flatMap_nil, List.flatMap_cons, List.cons_append,
    reduceCtorEq]

/-! ### What the standing adds -/

section Standing

variable {kind : Kind} {front : List String}

/-- A text that was encoded as a segment is decoded to the text. -/
theorem decodeUtf8_decode_encode (special : Bool) (text : List Char) :
    Text.decodeUtf8 (decode (encode (escapesInSegment special) text)) = text := by
  rw [decode_encode_segment, Text.decodeUtf8_octets]

/-- Different texts are encoded differently as segments. -/
theorem encode_inj {special : Bool} {text other : List Char} :
    encode (escapesInSegment special) text = encode (escapesInSegment special) other ↔
      text = other := by
  refine ⟨fun same => ?_, fun same => same ▸ rfl⟩
  rw [← decodeUtf8_decode_encode special text, same, decodeUtf8_decode_encode]

/-- No character that ends a segment, a path or a query stands in an encoded segment. -/
theorem no_separator_in_encode {text : List Char} {character : Char}
    (member : character ∈ encode (escapesInSegment kind.isSpecial) text) :
    kind.isSlash character = false ∧ character ≠ '?' ∧ character ≠ '#' := by
  have outside {mark : Char} (noPercent : mark ≠ '%') (noDigit : Text.hexValue? mark = none)
      (escaped : escapesInSegment kind.isSpecial mark.toNat = true) : character ≠ mark := by
    rintro rfl
    have kept := (mem_of_mem_encode (.segment _) noPercent noDigit member).2
    rw [escaped] at kept
    cases kept
  have noSlash : character ≠ '/' := outside (by decide) rfl (by cases kind <;> rfl)
  have noBackslash : kind.isSpecial = true → character ≠ '\\' := fun special =>
    outside (by decide) rfl (by rw [special]; rfl)
  refine ⟨?_, outside (by decide) rfl (by cases kind <;> rfl),
    outside (by decide) rfl (by cases kind <;> rfl)⟩
  rw [Kind.isSlash, Bool.or_eq_false_iff, decide_eq_false_iff_not]
  refine ⟨noSlash, ?_⟩
  cases special : kind.isSpecial with
  | false => rfl
  | true => rw [Bool.true_and, decide_eq_false_iff_not]; exact noBackslash special

/-- What each standing is written as. -/
theorem Standing.toList_text_segments (standing : Standing) :
    (Path.text (standing.segments kind front)).toList =
      match standing with
      | .omitted => "/content/publish".toList
      | .climbing => if front = [] then "/publish".toList else "//publish".toList
      | .segment text =>
        "/content/".toList ++ (encode (escapesInSegment kind.isSpecial) text ++
          "/publish".toList) := by
  cases standing with
  | omitted => rfl
  | climbing =>
    rw [segments]
    split_ifs <;> rfl
  | segment text =>
    rw [segments, Path.toList_text]
    simp

/-- The segments of an endpoint begin with the first of its words unless that was taken back. -/
theorem Standing.content_prefix_iff (standing : Standing) :
    "/content/".toList <+: (Path.text (standing.segments kind front)).toList ↔
      standing ≠ .climbing := by
  rw [toList_text_segments]
  cases standing with
  | omitted => exact iff_of_true ⟨"publish".toList, rfl⟩ nofun
  | climbing =>
    dsimp only
    split_ifs <;> decide
  | segment text => exact iff_of_true (List.prefix_append _ _) nofun

/-- Unless the first word is taken back, at most one segment stands between the two words, and
nothing in it ends a segment or the path. -/
theorem Standing.exists_between {standing : Standing} (stays : standing ≠ .climbing) :
    ∃ between, standing.segments kind front = "content" :: (between ++ ["publish"]) ∧
      between.length ≤ 1 ∧
      ∀ segment ∈ between, ∀ character ∈ segment.toList,
        kind.isSlash character = false ∧ character ≠ '?' ∧ character ≠ '#' := by
  cases standing with
  | omitted => exact ⟨[], rfl, Nat.zero_le 1, fun _ member => absurd member List.not_mem_nil⟩
  | climbing => exact absurd rfl stays
  | segment text =>
    refine ⟨[_], rfl, Nat.le_refl 1, ?_⟩
    rw [List.forall_mem_singleton, String.toList_ofList]
    exact fun _ => no_separator_in_encode

/-- The segments of an endpoint end with the last of its words. -/
theorem Standing.publish_suffix (standing : Standing) :
    "/publish".toList <:+ (Path.text (standing.segments kind front)).toList := by
  rw [toList_text_segments]
  cases standing with
  | omitted => exact ⟨"/content".toList, rfl⟩
  | climbing =>
    dsimp only
    split_ifs <;> decide
  | segment text =>
    dsimp only
    rw [← List.append_assoc]
    exact List.suffix_append _ _

/-- No segment that is encoded makes up for one that is left out: the slash behind it stays. -/
theorem Standing.segments_omitted_ne (text : List Char) :
    Path.text (Standing.omitted.segments kind front) ≠
      Path.text ((Standing.segment text).segments kind front) := by
  intro same
  have lengths := congrArg (fun written => written.toList.length) same
  simp only [toList_text_segments, List.length_append] at lengths
  have words : "/content/publish".toList.length = 16 ∧ "/content/".toList.length = 9 ∧
      "/publish".toList.length = 8 := by decide
  omega

/-- Different standings are written differently. -/
theorem Standing.text_segments_inj {one other : Standing} :
    Path.text (one.segments kind front) = Path.text (other.segments kind front) ↔
      one = other := by
  refine ⟨fun same => ?_, fun same => same ▸ rfl⟩
  have climbs : one ≠ .climbing ↔ other ≠ .climbing := by
    rw [← @content_prefix_iff kind front, same, content_prefix_iff]
  cases one with
  | climbing => exact (not_not.mp (climbs.not.mp (not_not.mpr rfl))).symm
  | omitted =>
    cases other with
    | omitted => rfl
    | climbing => exact absurd rfl (climbs.mp nofun)
    | segment text => exact absurd same (segments_omitted_ne text)
  | segment text =>
    cases other with
    | omitted => exact absurd same.symm (segments_omitted_ne text)
    | climbing => exact absurd rfl (climbs.mp nofun)
    | segment text' =>
      have written := congrArg String.toList same
      rw [toList_text_segments, toList_text_segments] at written
      exact congrArg Standing.segment
        (encode_inj.mp (List.append_cancel_right (List.append_cancel_left written)))

/-- A name is encoded whole if it is no dot segment and nothing is dropped from it. -/
def EncodedWhole (content : ContentId) : Prop :=
  content.text ≠ "." ∧ content.text ≠ ".." ∧ content.text.toList.any isBreak = false

/-- The names that are encoded whole are those whose standing is their own text. -/
theorem standing_eq_segment_iff {content : ContentId} :
    standing content = .segment content.text.toList ↔ EncodedWhole content := by
  have dots : (content.text.toList = ['.'] ∨ content.text.toList = ['.', '.']) ↔
      (content.text = "." ∨ content.text = "..") := by
    rw [← String.toList_inj, ← String.toList_inj]
    rfl
  have unchanged : kept content.text.toList = content.text.toList ↔
      content.text.toList.any isBreak = false := by
    simp only [kept, List.filter_eq_self, Bool.not_eq_true', List.any_eq_false, Bool.not_eq_true]
  rw [EncodedWhole, ← and_assoc, ← not_or, ← dots, ← unchanged, standing]
  generalize content.text.toList = text
  split_ifs with isDots climbs dot
  · exact iff_of_false (by simp) fun whole => whole.1 isDots
  · refine iff_of_false (by simp) fun whole => isDots (.inr ?_)
    rw [← whole.2, climbs]
  · constructor
    · intro same
      obtain rfl := Standing.segment.inj same
      cases dot
    · intro whole
      exact absurd (.inl (whole.2.symm.trans dot)) isDots
  · rw [Standing.segment.injEq]
    exact ⟨fun same => ⟨isDots, same⟩, fun whole => whole.2⟩

/-- The name stands as one segment between the two words if it is encoded whole, and only then: it
is that segment decoded, and no separator stands in it. -/
theorem segments_carry_iff {content : ContentId} :
    (∃ segment,
      (standing content).segments kind front = ["content", segment, "publish"] ∧
        (∀ character ∈ segment.toList, kind.isSlash character = false) ∧
          Text.decodeUtf8 (decode segment.toList) = content.text.toList) ↔
      EncodedWhole content := by
  rw [← standing_eq_segment_iff]
  constructor
  · rintro ⟨segment, stands, -, decoded⟩
    cases found : standing content with
    | omitted =>
      rw [found] at stands
      cases stands
    | climbing =>
      rw [found, Standing.segments] at stands
      split_ifs at stands <;> simp at stands
    | segment text =>
      rw [found] at stands
      cases stands
      rw [String.toList_ofList, decodeUtf8_decode_encode] at decoded
      rw [decoded]
  · intro whole
    rw [whole]
    refine ⟨_, rfl, ?_, ?_⟩
    · intro character member
      rw [String.toList_ofList] at member
      exact (no_separator_in_encode member).1
    · rw [String.toList_ofList, decodeUtf8_decode_encode]

end Standing

/-! ### Endpoints -/

section Endpoint

variable {base : Url} {place : Place} {path : List String}

/-- Urls that differ only in the end of the path are written alike, and ask their host for the same,
exactly if these ends are written alike. -/
theorem text_eq_iff (base : Url) (place : Place) (front one other : List String) :
    (text { base with body := .path place (front ++ one) } =
        text { base with body := .path place (front ++ other) } ↔
      Path.text one = Path.text other) ∧
    (requestTarget { base with body := .path place (front ++ one) } =
        requestTarget { base with body := .path place (front ++ other) } ↔
      Path.text one = Path.text other) := by
  simp only [text, requestTarget, UrlBody.text, Path.text_append, String.append_left_inj,
    String.append_right_inj, and_self]

/-- The endpoints below a base that carries a path tell contents apart as far as their standings
differ: two contents have the same url, and are asked for under the same path, exactly if they have
the same standing. A content stands in its url as one segment between `content` and `publish` that
is decoded to its name exactly if the name is encoded whole, and different contents with such names
have different urls. -/
theorem endpoint_distinguishes (carries : base.body = .path place path) :
    ∃ locate : ContentId → Url,
      (∀ content, endpoint base content = .ok (locate content)) ∧
      (∀ content other,
        ((locate content).text = (locate other).text ↔ standing content = standing other) ∧
        ((locate content).requestTarget = (locate other).requestTarget ↔
          standing content = standing other)) ∧
      (∀ content,
        (∃ segment,
          (locate content).body =
              .path place (stem path ++ ["content", segment, "publish"]) ∧
            (∀ character ∈ segment.toList, base.kind.isSlash character = false) ∧
              Text.decodeUtf8 (decode segment.toList) = content.text.toList) ↔
          EncodedWhole content) ∧
      (∀ content other, EncodedWhole content → EncodedWhole other → content ≠ other →
        (locate content).text ≠ (locate other).text) := by
  have same (content other : ContentId) := text_eq_iff base place (stem path)
    ((standing content).segments base.kind (stem path))
    ((standing other).segments base.kind (stem path))
  simp only [Standing.text_segments_inj] at same
  refine ⟨_, endpoint_eq carries, same, fun content => ?_, ?_⟩
  · rw [← @segments_carry_iff base.kind (stem path)]
    simp only [UrlBody.path.injEq, true_and, List.append_cancel_left_eq]
  · intro content other whole whole' different written
    have stands := (same content other).1.mp written
    rw [standing_eq_segment_iff.mpr whole, standing_eq_segment_iff.mpr whole',
      Standing.segment.injEq, String.toList_inj] at stands
    exact different (congrArg ContentId.mk stands)

/-- A base for the cases below, as it is read. -/
def sampleBase : Url :=
  ⟨"http", .path (.authority ⟨none, .ipv6 ⟨1⟩, none⟩) ["api"], none, none⟩

theorem endpoint_distinguishes_slash_and_escape :
    ∃ slash escape, endpoint sampleBase ⟨"a/b"⟩ = .ok slash ∧
      endpoint sampleBase ⟨"a%2Fb"⟩ = .ok escape ∧ slash.text ≠ escape.text := by
  obtain ⟨locate, located, -, -, distinct⟩ :=
    endpoint_distinguishes (rfl : sampleBase.body = .path _ ["api"])
  have slash : EncodedWhole ⟨"a/b"⟩ := ⟨by decide, by decide, by decide⟩
  have escape : EncodedWhole ⟨"a%2Fb"⟩ := ⟨by decide, by decide, by decide⟩
  exact ⟨_, _, located _, located _, distinct _ _ slash escape (by decide)⟩

/-- Names that differ only in what is dropped from them have one endpoint, and so have the names of
one and of two dots. -/
theorem not_endpoint_distinguishes_all :
    parse "http://[::1]/api" = .ok sampleBase ∧
      (∃ broken whole, ContentId.ofText? "a\tb" = .ok broken ∧ ContentId.ofText? "ab" = .ok whole ∧
        broken ≠ whole ∧ endpoint sampleBase broken = endpoint sampleBase whole) ∧
      (∃ dot dots, ContentId.ofText? "." = .ok dot ∧ ContentId.ofText? ".." = .ok dots ∧
        dot ≠ dots ∧ endpoint sampleBase dot = endpoint sampleBase dots) :=
  ⟨rfl, ⟨⟨"a\tb"⟩, ⟨"ab"⟩, rfl, rfl, by decide, rfl⟩, ⟨⟨"."⟩, ⟨".."⟩, rfl, rfl, by decide, rfl⟩⟩

/-- Where the endpoint of a content lies, for a base that was read by a parser that cuts paths at
their slashes. A base that carries no path is refused. Below any other the endpoint is the base with
another path, which ends with `publish`. It begins with what the base's path is without a slash at
its end and goes on with the word `content`, unless the name is left as two dots when its tabs and
line breaks are dropped. Between the two words at most one segment stands, and nothing in it ends a
segment or the path. The two dots take back `content`, and an empty segment stands for both, or none
at the root. -/
theorem endpoint_within_base {parser : Parser} (cuts : parser.CutsPaths) {written : String}
    (read : parser written = .ok base) (content : ContentId) :
    match base.body with
    | .plain _ => endpoint base content = .error ("base url cannot carry a path: " ++ base.text)
    | .path place path =>
      ∃ extended, endpoint base content = .ok { base with body := .path place extended } ∧
        "/publish".toList <:+ (Path.text extended).toList ∧
        (foundation (Path.text path).toList ++ "/content/".toList <+: (Path.text extended).toList ↔
          standing content ≠ .climbing) ∧
        (standing content ≠ .climbing →
          ∃ between, extended = stem path ++ "content" :: (between ++ ["publish"]) ∧
            between.length ≤ 1 ∧
            ∀ segment ∈ between, ∀ character ∈ segment.toList,
              base.kind.isSlash character = false ∧ character ≠ '?' ∧ character ≠ '#') ∧
        (standing content = .climbing →
          (Path.text extended).toList = foundation (Path.text path).toList ++
            if foundation (Path.text path).toList = [] then "/publish".toList
            else "//publish".toList) := by
  cases body : base.body with
  | plain text =>
    dsimp only
    rw [endpoint, extend?, body]
  | path place path =>
    have proper := cuts written base read place path body
    have written_eq :
        (Path.text (stem path ++ (standing content).segments base.kind (stem path))).toList =
          foundation (Path.text path).toList ++
            (Path.text ((standing content).segments base.kind (stem path))).toList := by
      rw [Path.text_append, String.toList_append, toList_text_stem proper]
    refine ⟨_, endpoint_eq body content, ?_, ?_, ?_, ?_⟩
    · rw [written_eq]
      exact (Standing.publish_suffix _).trans (List.suffix_append _ _)
    · rw [written_eq, List.prefix_append_right_inj, Standing.content_prefix_iff]
    · intro stays
      obtain ⟨between, same, short, plain⟩ := Standing.exists_between stays
      exact ⟨between, congrArg (stem path ++ ·) same, short, plain⟩
    · intro climbs
      rw [written_eq, climbs, Standing.toList_text_segments]
      simp only [stem_eq_nil_iff proper]

/-- A base with a slash at the end of its path, a query and a fragment, as it is read. -/
def markedBase : Url :=
  ⟨"http", .path (.authority ⟨none, .ipv6 ⟨1⟩, none⟩) ["api", ""], some "v=1", some "top"⟩

theorem endpoint_within_base_for_hostile :
    parse "http://[::1]/api/?v=1#top" = .ok markedBase ∧
      ∃ extended,
        endpoint markedBase ⟨"/../%2e%2e\\?q#f"⟩ =
          .ok { markedBase with body := .path (.authority ⟨none, .ipv6 ⟨1⟩, none⟩) extended } ∧
        "/api/content/".toList <+: (Path.text extended).toList ∧
        "/publish".toList <:+ (Path.text extended).toList := by
  refine ⟨rfl, ?_⟩
  obtain ⟨extended, located, ends, begins, -⟩ :=
    endpoint_within_base cutsPaths_parse
      (rfl : parse "http://[::1]/api/?v=1#top" = .ok markedBase) ⟨"/../%2e%2e\\?q#f"⟩
  exact ⟨extended, located, begins.mpr (by decide), ends⟩

/-- A name that is left as two dots lies beside the word `content`, not below it. -/
theorem not_endpoint_within_base_always :
    parse "http://[::1]/api" = .ok sampleBase ∧
      ∃ content extended, ContentId.ofText? ".\t." = .ok content ∧
        endpoint sampleBase content =
          .ok { sampleBase with
            body := .path (.authority ⟨none, .ipv6 ⟨1⟩, none⟩) extended } ∧
        Path.text extended = "/api//publish" ∧
        ¬ "/api/content/".toList <+: (Path.text extended).toList :=
  ⟨rfl, ⟨".\t."⟩, ["api", "", "publish"], rfl, rfl, rfl, by decide⟩

end Endpoint

end TimedPublishing.Url
