import Rollout.Http.Endpoint
import Rollout.Http.Url.Reader
import Rollout.Proofs.Text.Percent
import Rollout.Proofs.Text.Split

/-!
# The addresses of what has a name

A deployment is deleted, and a cluster is asked for, at an address that ends with its name. The
main theorem is `Request.url_of_name`: below a base address, the name is one segment that stands
for it, exactly if `Url.IsSegment` holds of the name and the path of the base address is not that
of two slashes, and two such requests have two addresses.

The base address ends with an empty segment, which the first segment that is added replaces
(`Url.append_dropEmptyLast_withSlash`). From there on a plain name is added in its encoded form,
in which no slash stands and which is read back as the name (`Url.push_of_isSegment`,
`Url.slash_notMem_encode`, `Percent.decode_encode`). What is added for any other name is no segment
at all, or one that stands for another text (`Url.decode_ne_of_push`). For two addresses that are
equal as texts, what they share is taken away, and their last slashes are in the same place.
-/

namespace Rollout.Http

open Text Service

namespace Url

/-! ## The base address -/

/-- The segments of a path without an empty one at its end, which is a slash at the end of the
path. -/
def stem (url : Url) : List (List Char) :=
  if url.segments.getLast? = some [] then url.segments.dropLast else url.segments

/-- The segments below which the endpoints are. Of a path of two slashes nothing is left. -/
def root (url : Url) : List (List Char) :=
  if url.stem = [[]] then [] else url.stem

/-- A base address has one empty segment after those of the address that was given. -/
theorem segments_withSlash (url : Url) : url.withSlash.segments = url.stem ++ [[]] := by
  unfold withSlash stem
  split
  · next hslash =>
    obtain ⟨before, hbefore⟩ := List.getLast?_eq_some_iff.1 hslash
    rw [hbefore, List.dropLast_concat]
  · rfl

/-- An empty segment at the end is left out, unless it is the only one. -/
theorem dropEmptyLast_concat (stem : List (List Char)) :
    dropEmptyLast (stem ++ [[]]) = if stem = [] then [[]] else stem := by
  induction stem with
  | nil => rfl
  | cons s stem ih =>
    cases stem with
    | nil => rfl
    | cons t stem =>
      have hmore : ¬ (stem ++ [[]] = [] ∧ t = []) := by simp
      rw [if_neg (by simp)] at ih ⊢
      show (if stem ++ [[]] = [] ∧ t = [] then [s] else s :: dropEmptyLast (t :: stem ++ [[]])) = _
      rw [if_neg hmore, ih]

/-- The first segment that is added to a base address comes after its root. -/
theorem append_dropEmptyLast_withSlash (url : Url) (s : List Char) :
    append (dropEmptyLast url.withSlash.segments) s = url.root ++ [s] := by
  rw [segments_withSlash, dropEmptyLast_concat]
  unfold append root
  -- After nothing and after the bare slash, the new segment is the first.
  by_cases hnil : url.stem = []
  · simp [hnil]
  · by_cases hbare : url.stem = [[]]
    · simp [hbare]
    · simp [hnil, hbare]

/-- A base address is made of the address that a text names. -/
theorem parseBase_eq_ok_iff {text : String} {base : Url} :
    parseBase text = .ok base ↔
      ∃ given, parse text = .ok (some given) ∧ base = given.withSlash := by
  unfold parseBase
  cases parse text with
  | error e => simp
  | ok result =>
    cases result with
    | none => simp
    | some given => simp [eq_comm]

/-! ## Adding a segment -/

/-- A name that is added to a path as one segment: it is no dot segment, and it has no characters
that addresses leave out. -/
def IsSegment (name : String) : Prop :=
  name ≠ "." ∧ name ≠ ".." ∧ ∀ c ∈ name.toList, isIgnored c = false

instance (name : String) : Decidable (IsSegment name) :=
  have : Decidable (∀ c ∈ name.toList, isIgnored c = false) := List.decidableBAll _ _
  inferInstanceAs (Decidable (_ ∧ _ ∧ _))

/-- A name that is no segment is a dot segment or has a character that is left out. -/
theorem ignored_of_not_isSegment {name : String} (h : ¬ IsSegment name)
    (hdots : ¬ (name.toList = ['.'] ∨ name.toList = ['.', '.'])) :
    ∃ c ∈ name.toList, isIgnored c = true := by
  by_cases hsome : ∃ c ∈ name.toList, isIgnored c = true
  · exact hsome
  -- Without such characters the name would be a segment.
  refine absurd ⟨?_, ?_, ?_⟩ h
  · rintro rfl
    exact hdots (.inl rfl)
  · rintro rfl
    exact hdots (.inr rfl)
  · intro c hc
    exact Bool.eq_false_iff.2 fun hignored => hsome ⟨c, hc, hignored⟩

/-- The bare slash is one segment. -/
theorem ne_bare_of_lt_length {segments : List (List Char)} (h : 1 < segments.length) :
    segments ≠ [[]] := by
  rintro rfl
  contradiction

/-- A segment comes after the others, unless they are the bare slash. -/
theorem append_of_ne {segments : List (List Char)} (h : segments ≠ [[]]) (s : List Char) :
    append segments s = segments ++ [s] :=
  if_neg h

/-- Such a name is added in its encoded form. -/
theorem push_of_isSegment {name : String} (h : IsSegment name) (segments : List (List Char)) :
    push segments name.toList = append segments (Percent.encode Percent.inSegment name.toList) := by
  obtain ⟨hdot, hdots, hkept⟩ := h
  have hdot' : name.toList ≠ ['.'] := fun heq => hdot (String.toList_inj.1 heq)
  have hdots' : name.toList ≠ ['.', '.'] := fun heq => hdots (String.toList_inj.1 heq)
  -- Nothing is left out of the name, so it is no dot segment after that either.
  have hfilter : name.toList.filter (!isIgnored ·) = name.toList :=
    List.filter_eq_self.2 fun c hc => by rw [hkept c hc]; rfl
  unfold push
  rw [if_neg (not_or.2 ⟨hdot', hdots'⟩), hfilter]
  dsimp only
  rw [if_neg hdot', if_neg hdots']

/-- A text that goes through the encoding unchanged is a segment as it stands. -/
theorem push_word (word : String) (h : IsSegment word)
    (hplain : Percent.encode Percent.inSegment word.toList = word.toList)
    (segments : List (List Char)) : push segments word.toList = append segments word.toList := by
  rw [push_of_isSegment h, hplain]

/-- Every other name adds no segment that stands for it. -/
theorem decode_ne_of_push {name : String} (h : ¬ IsSegment name) {segments : List (List Char)}
    (hlength : 2 < segments.length) {s : List Char}
    (hpush : push segments name.toList = segments ++ [s]) :
    Percent.decode s ≠ name.toList := by
  have hne : segments ≠ [[]] := ne_bare_of_lt_length (by omega)
  unfold push at hpush
  split at hpush
  · -- A dot segment adds nothing.
    have hshort := congrArg List.length hpush
    simp at hshort
  next hdots =>
  obtain ⟨c, hc, hignored⟩ := ignored_of_not_isSegment h hdots
  dsimp only at hpush
  split at hpush
  · -- An empty segment, but the name is not empty.
    rw [append_of_ne hne] at hpush
    obtain rfl : [] = s := by simpa using hpush
    intro hdecode
    rw [← hdecode] at hc
    exact absurd hc List.not_mem_nil
  split at hpush
  · -- The last segment is gone, so that the path is no longer than before.
    have hdrop : segments.dropLast.length = segments.length - 1 := List.length_dropLast
    rw [append_of_ne (ne_bare_of_lt_length (by omega))] at hpush
    have hshort := congrArg List.length hpush
    simp only [List.length_append, List.length_singleton, hdrop] at hshort
    omega
  · -- The segment stands for a text without the characters that are left out.
    rw [append_of_ne hne] at hpush
    obtain rfl := List.append_singleton_inj.1 hpush |>.2
    rw [Percent.decode_encode rfl]
    intro heq
    rw [← heq] at hc
    simp [hignored] at hc

/-- Adding a name makes a path longer by one segment at most. -/
theorem length_push_le (segments : List (List Char)) (s : List Char) :
    (push segments s).length ≤ segments.length + 1 := by
  have happend (segments : List (List Char)) (s : List Char) :
      (append segments s).length ≤ segments.length + 1 := by
    unfold append
    split <;> simp
  unfold push
  split
  · omega
  dsimp only
  split
  · exact happend _ _
  split
  · have hshort : segments.dropLast.length ≤ segments.length := by simp
    exact Nat.le_trans (happend _ _) (by omega)
  · exact happend _ _

/-- An encoded segment stays one segment. -/
theorem slash_notMem_encode (s : List Char) : '/' ∉ Percent.encode Percent.inSegment s :=
  Percent.notMem_encode rfl (by decide) (by decide) s

/-! ## The addresses below a base address -/

/-- The segments of a collection of the service. -/
def collection (url : Url) (name : String) : List (List Char) :=
  url.root ++ ["api".toList, "v1".toList, name.toList]

/-- Below a path other than that of two slashes, nothing of the path is lost. -/
theorem collection_concat {url : Url} (h : url.stem ≠ [[]]) (name : String)
    (segment : List Char) :
    url.collection name ++ [segment] =
      url.stem ++ ["api".toList, "v1".toList, name.toList, segment] := by
  unfold collection root
  rw [if_neg h, List.append_assoc]
  rfl

/-- A name that can be a segment comes after the segments of a collection. -/
theorem push_collection (url : Url) {collection name : String} (h : IsSegment name) :
    push (url.collection collection) name.toList =
      url.collection collection ++ [Percent.encode Percent.inSegment name.toList] := by
  have hlength : 1 < (url.collection collection).length := by simp [Url.collection]
  rw [push_of_isSegment h, append_of_ne (ne_bare_of_lt_length hlength)]

/-- An address in a collection is made by adding one more name to those of the collection. -/
theorem extend_withSlash (url : Url) {name : String} (h : IsSegment name)
    (hplain : Percent.encode Percent.inSegment name.toList = name.toList) (last : String) :
    url.withSlash.extend ["api", "v1", name, last] =
      { url with segments := push (url.collection name) last.toList } := by
  have hbare (segments : List (List Char)) {s : List Char} (hs : s ≠ []) :
      segments ++ [s] ≠ [[]] := by
    intro heq
    exact hs (List.append_singleton_inj.1 (heq.trans (List.nil_append [[]]).symm)).2
  have hothers (segments : List (List Char)) :
      { url.withSlash with segments := segments } = { url with segments := segments } := by
    unfold withSlash
    split <;> rfl
  unfold extend
  rw [hothers]
  simp only [List.foldl_cons, List.foldl_nil]
  -- The first word comes after the root; after a word the path is not the bare slash any more.
  rw [push_word "api" (by decide) (by decide), append_dropEmptyLast_withSlash,
    push_word "v1" (by decide) (by decide), append_of_ne (hbare _ (by decide)),
    push_word name h hplain, append_of_ne (hbare _ (by decide)), List.append_assoc,
    List.append_assoc]
  rfl

/-- The text of an address tells its path, if the rest of it is known. -/
theorem path_eq_of_text_eq (url : Url) {segments segments' : List (List Char)}
    (h : { url with segments := segments }.text = { url with segments := segments' }.text) :
    segments.flatMap ('/' :: ·) = segments'.flatMap ('/' :: ·) := by
  have hlists := congrArg String.toList h
  simpa [text, target, path, userInfo, authority] using hlists

end Url

end Rollout.Http

namespace Rollout.Service.Request

open Http Text

/-- The collection and the name of what a request is about, if it is about one thing. -/
def member? : Request → Option (String × String)
  | delete name => some ("deployments", name)
  | connection cluster => some ("connections", cluster)
  | _ => none

/-- The request is about one thing, and its name can be a segment of an address. -/
def NamesSegment (request : Request) : Prop :=
  ∃ member ∈ request.member?, Url.IsSegment member.2

/-- The address of one thing is made by adding its name to the segments of its collection. -/
theorem url_withSlash (given : Url) {request : Request} {collection name : String}
    (h : request.member? = some (collection, name)) :
    request.url given.withSlash =
      { given with segments := Url.push (given.collection collection) name.toList } := by
  cases request with
  | components => contradiction
  | mirrors => contradiction
  | deployments status => contradiction
  | delete deployment =>
    obtain ⟨rfl, rfl⟩ : "deployments" = collection ∧ deployment = name := by simpa [member?] using h
    exact given.extend_withSlash (by decide) (by decide) _
  | connection cluster =>
    obtain ⟨rfl, rfl⟩ : "connections" = collection ∧ cluster = name := by simpa [member?] using h
    exact given.extend_withSlash (by decide) (by decide) _

/-- What a request is about tells the request. -/
theorem eq_of_member?_eq {request request' : Request} {member : String × String}
    (h : request.member? = some member) (h' : request'.member? = some member) :
    request = request' := by
  cases request <;> cases h <;> cases request' <;> simp_all [member?]

/-- Requests about two things have different addresses. -/
theorem eq_of_text_eq (given : Url) {request request' : Request} (h : request.NamesSegment)
    (h' : request'.NamesSegment)
    (htext : (request.url given.withSlash).text = (request'.url given.withSlash).text) :
    request = request' := by
  obtain ⟨⟨collection, name⟩, hmember, hsegment⟩ := h
  obtain ⟨⟨collection', name'⟩, hmember', hsegment'⟩ := h'
  rw [url_withSlash given hmember, url_withSlash given hmember', given.push_collection hsegment,
    given.push_collection hsegment'] at htext
  -- What is before the name of the collection is the same in both addresses.
  have hpath := given.path_eq_of_text_eq htext
  simp only [Url.collection, List.flatMap_append, List.append_assoc, List.append_cancel_left_eq,
    List.flatMap_cons, List.flatMap_nil, List.cons_append, List.cons.injEq, List.nil_append,
    List.append_nil, true_and] at hpath
  -- No encoded name has a slash, so that the last one ends the name of the collection.
  obtain ⟨hcollection, hencoded⟩ := append_sep_inj hpath (Url.slash_notMem_encode _)
    (Url.slash_notMem_encode _)
  have hname : name.toList = name'.toList := by
    have hdecoded := congrArg Percent.decode hencoded
    rwa [Percent.decode_encode rfl, Percent.decode_encode rfl] at hdecoded
  rw [String.toList_inj] at hcollection hname
  subst hcollection hname
  exact eq_of_member?_eq hmember hmember'

/-- The request for one thing goes to the path that was given, without a slash at its end, then
`api`, `v1`, the collection and one segment that stands for the name, exactly if the name can be a
segment and the path that was given is not that of two slashes. Requests with names that can be
segments go to different addresses. -/
theorem url_of_name {text : String} {base : Url} (h : Url.parseBase text = .ok base) :
    ∃ given, Url.parse text = .ok (some given) ∧
      (∀ (request : Request) (collection name : String),
        request.member? = some (collection, name) →
        ((∃ segment, '/' ∉ segment ∧ Percent.decode segment = name.toList ∧
          request.url base = { given with
            segments := given.stem ++
              ["api".toList, "v1".toList, collection.toList, segment] }) ↔
          Url.IsSegment name ∧ given.stem ≠ [[]])) ∧
      ∀ request request' : Request, request.NamesSegment → request'.NamesSegment →
        (request.url base).text = (request'.url base).text → request = request' := by
  -- The base is the address that was given, with a slash at its end.
  obtain ⟨given, hgiven, rfl⟩ := Url.parseBase_eq_ok_iff.1 h
  refine ⟨given, hgiven, ?_, fun request request' => eq_of_text_eq given⟩
  intro request collection name hmember
  rw [url_withSlash given hmember]
  constructor
  · rintro ⟨segment, -, hdecode, hurl⟩
    have hpush := congrArg Url.segments hurl
    dsimp only at hpush
    -- Five segments cannot come from one name and the three segments of the collection.
    have hstem : given.stem ≠ [[]] := by
      intro hbare
      have hlength := Url.length_push_le (given.collection collection) name.toList
      rw [hpush] at hlength
      simp [Url.collection, Url.root, hbare] at hlength
    rw [← Url.collection_concat hstem] at hpush
    have hlength : 2 < (given.collection collection).length := by
      simp [Url.collection]
    -- A name that is no segment is not what the added segment stands for.
    refine ⟨?_, hstem⟩
    by_cases hsegment : Url.IsSegment name
    · exact hsegment
    · exact absurd hdecode (Url.decode_ne_of_push hsegment hlength hpush)
  · rintro ⟨hsegment, hstem⟩
    refine ⟨_, Url.slash_notMem_encode name.toList, Percent.decode_encode rfl _, ?_⟩
    rw [given.push_collection hsegment, Url.collection_concat hstem]

/-- A name with blanks, slashes, percent signs and letters beyond ASCII is one segment. -/
theorem url_of_name_blanks :
    ∃ base given, Url.parseBase "http://127.0.0.1:8680/deploy" = .ok base ∧
      Url.parse "http://127.0.0.1:8680/deploy" = .ok (some given) ∧
      (∃ segment, '/' ∉ segment ∧ Percent.decode segment = "a b/ä%2F".toList ∧
        (delete "a b/ä%2F").url base = { given with
          segments := given.stem ++
            ["api".toList, "v1".toList, "deployments".toList, segment] }) ∧
      ((delete "a").url base).text ≠ ((delete "b").url base).text := by
  have hbase : Url.parseBase "http://127.0.0.1:8680/deploy" = .ok
      ⟨"http", "", "", "127.0.0.1", some 8680, ["deploy".toList, []], none, none⟩ := rfl
  obtain ⟨given, hgiven, hsegment, hdistinct⟩ := url_of_name hbase
  -- The path that was given is not that of two slashes.
  have hstem : given.stem ≠ [[]] := by
    have hparse : Url.parse "http://127.0.0.1:8680/deploy" = .ok (some
        ⟨"http", "", "", "127.0.0.1", some 8680, ["deploy".toList], none, none⟩) := rfl
    rw [hparse] at hgiven
    cases hgiven
    decide
  refine ⟨_, given, hbase, hgiven,
    (hsegment (delete "a b/ä%2F") _ _ rfl).2 ⟨by decide, hstem⟩, fun htext => ?_⟩
  have heq := hdistinct (delete "a") (delete "b") ⟨_, rfl, by decide⟩ ⟨_, rfl, by decide⟩ htext
  contradiction

/-- A dot segment is left out of an address, so that the whole collection is addressed; and so are
tabs, so that two names have one address. -/
theorem url_of_dot_and_tab :
    ∃ base, Url.parseBase "http://127.0.0.1:8680" = .ok base ∧
      ((delete ".").url base).path = "/api/v1/deployments" ∧
      (delete "a\tb").url base = (delete "ab").url base := by
  refine ⟨⟨"http", "", "", "127.0.0.1", some 8680, [[]], none, none⟩, rfl, ?_, ?_⟩
  · decide
  · decide

end Rollout.Service.Request
