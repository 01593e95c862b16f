import Mathlib.Data.Bool.AllAny
import SchemaSharp.Proofs.Location.Destinations

/-!
References from one local file to another. A reference is put behind the escaped folder of the file
that it stands in, and its dots are resolved in the escaped text, where a step up may even take the
root away. What comes out leads where the reference leads from that folder as a path.
-/

namespace SchemaSharp

open Text
open FilePath (ofChars ofString absolute advance Plain)

namespace Location

/-! ## Escaped segments -/

theorem escape_append (before after : List Char) :
    escape (before ++ after) = escape before ++ escape after := by
  simp [escape, Utf8.encode]

theorem escape_joinWith (segments : List (List Char)) :
    escape (joinWith ['/'] segments) = joinWith ['/'] (segments.map escape) := by
  induction segments with
  | nil => rfl
  | cons segment rest ih =>
      cases rest with
      | nil => rfl
      | cons next others =>
          rw [joinWith, escape_append, escape_append, ih]
          · rfl
          · exact List.cons_ne_nil _ _

theorem escape_absolute (segments : List (List Char)) :
    escape (absolute segments) = absolute (segments.map escape) := by
  rw [absolute, escape_slash, escape_joinWith, absolute]

/-- Only ASCII characters have bytes below the others. -/
theorem toNat_of_mem_utf8EncodeChar {c : Char} {byte : UInt8}
    (member : byte ∈ String.utf8EncodeChar c) (ascii : byte.toNat < 0x80) :
    c.toNat = byte.toNat := by
  have same : c.toNat = c.val.toNat := rfl
  rw [same]
  have beyond : ∀ n, 0x80 ≤ n % 2 ^ 8 → byte ≠ UInt8.ofNat n := by
    rintro n high rfl
    rw [UInt8.toNat_ofNat'] at ascii
    omega
  unfold String.utf8EncodeChar at member
  generalize c.val.toNat = v at member
  dsimp only at member
  split_ifs at member
  · obtain rfl := List.mem_singleton.mp member
    rw [UInt8.toNat_ofNat']
    omega
  all_goals
    -- all of its bytes, the first included, have the highest bit
    exfalso
    repeat'
      rcases List.mem_cons.mp member with here | member
      · exact beyond _ (by omega) here
    cases member

theorem slash_mem_escape {text : List Char} (member : '/' ∈ escape text) : '/' ∈ text := by
  have slash : ∀ n < 256, '/' ∈ escapeByte (UInt8.ofNat n) → n = 0x2f := by decide +kernel
  obtain ⟨byte, encoded, here⟩ := List.mem_flatMap.mp member
  obtain ⟨c, inside, made⟩ := List.mem_flatMap.mp encoded
  have value := slash byte.toNat byte.toNat_lt (by rwa [UInt8.ofNat_toNat])
  have same := toNat_of_mem_utf8EncodeChar made (by omega)
  rw [value] at same
  have equal : c = '/' := Char.toNat_inj.mp same
  rwa [← equal]

theorem escape_eq_iff {text plain : List Char} (stays : escape plain = plain) :
    escape text = plain ↔ text = plain := by
  constructor
  · intro same
    exact escape_injective (same.trans stays.symm)
  · rintro rfl
    exact stays

theorem plain_escape {segment : List Char} (plain : Plain segment) : Plain (escape segment) where
  meaningful := by
    have given := plain.meaningful
    simp only [FilePath.meaningful, Bool.and_eq_true, Bool.not_eq_true', bne_iff_ne, ne_eq,
      List.isEmpty_eq_false_iff] at given ⊢
    have dot : escape ['.'] = ['.'] := by decide +kernel
    exact ⟨fun empty => given.1 ((escape_eq_iff rfl).mp empty),
      fun same => given.2 ((escape_eq_iff dot).mp same)⟩
  whole member := plain.whole (slash_mem_escape member)
  stays same := plain.stays ((escape_eq_iff (by decide +kernel)).mp same)

/-- No escape begins in the text and ends behind it. -/
def Closed (text : List Char) : Prop :=
  ∀ rest, unescape (text ++ rest) = unescape text ++ unescape rest

theorem closed_escape (text : List Char) : Closed (escape text) := by
  intro rest
  rw [unescape_escape_append, unescape_escape]

theorem closed_of_plain {text : List Char} (nothing : '%' ∉ text) : Closed text := by
  intro rest
  rw [unescape_append nothing, unescape_of_plain nothing]

theorem unescape_absolute {segments : List (List Char)} (closed : ∀ segment ∈ segments, Closed segment) :
    unescape (absolute segments) = absolute (segments.map unescape) := by
  have joined : unescape (joinWith ['/'] segments) = joinWith ['/'] (segments.map unescape) := by
    induction segments with
    | nil => rfl
    | cons segment rest ih =>
        cases rest with
        | nil => rfl
        | cons next others =>
            rw [joinWith, List.append_assoc, closed segment (by simp), List.singleton_append,
              unescape_cons (by decide), ih fun other member => closed other (by simp [member])]
            · simp [joinWith]
            · exact List.cons_ne_nil _ _
  rw [absolute, unescape_cons (by decide), joined, absolute]

/-! ## Dots resolved in the text -/

section Merging

variable {names pieces : List (List Char)}

theorem mem_foldl_advance {place : List (List Char)} {segment : List Char}
    (member : segment ∈ pieces.foldl advance place) :
    segment ∈ place ∨ segment ∈ pieces ∧ FilePath.meaningful segment ∧ segment ≠ ['.', '.'] := by
  rw [← FilePath.climb_meaningful] at member
  rcases FilePath.mem_climb member with below | ⟨kept, stays⟩
  · exact .inl (List.mem_reverse.mp below)
  · exact .inr ⟨(List.mem_filter.mp kept).1, (List.mem_filter.mp kept).2, stays⟩

theorem foldl_advance_of_plain (plain : ∀ name ∈ names, Plain name) (place : List (List Char)) :
    names.foldl advance place = place ++ names := by
  induction names generalizing place with
  | nil => simp
  | cons name rest ih =>
      have own := plain name (by simp)
      have busy : ¬ (name = [] ∨ name = ['.']) := by
        rw [← FilePath.meaningful_eq_false_iff, own.meaningful]
        exact Bool.noConfusion
      rw [List.foldl_cons, advance, if_neg busy, if_neg own.stays,
        ih fun other member => plain other (List.mem_cons_of_mem _ member)]
      simp

theorem foldl_advance_filter (place : List (List Char)) :
    (pieces.filter fun piece => !piece.isEmpty).foldl advance place =
      pieces.foldl advance place := by
  induction pieces generalizing place with
  | nil => rfl
  | cons piece rest ih =>
      cases piece with
      | nil => exact ih place
      | cons c others => exact ih (advance place (c :: others))

theorem foldl_advance_map {change : List Char → List Char}
    (fixed : ∀ piece ∈ pieces, change piece = piece) (place : List (List Char)) :
    (pieces.foldl advance place).map change = pieces.foldl advance (place.map change) := by
  induction pieces generalizing place with
  | nil => rfl
  | cons piece rest ih =>
      have one : (advance place piece).map change = advance (place.map change) piece := by
        unfold advance
        split
        · rfl
        · split
          · rw [List.map_dropLast]
          · rw [List.map_append, List.map_singleton, fixed piece (by simp)]
      rw [List.foldl_cons, List.foldl_cons,
        ih fun other member => fixed other (List.mem_cons_of_mem _ member), one]

theorem walk_append (stack before after : List (List Char)) :
    walk stack (before ++ after) = walk (walk stack before).reverse after := by
  induction before generalizing stack with
  | nil => simp [walk]
  | cons segment rest ih =>
      rw [List.cons_append, walk, walk]
      split
      · exact ih _
      · split
        · exact ih _
        · exact ih _

/-- The root is one segment on the stack, the first, and a step up from it takes it away. Apart from
that walking is following the pieces. -/
theorem walk_follows {root : List (List Char)} (rooted : root = [] ∨ root = [[]])
    (full : ∀ piece ∈ pieces, piece ≠ []) (place : List (List Char)) :
    ∃ left, (left = [] ∨ left = [[]]) ∧
      walk (place.reverse ++ root) pieces = left ++ pieces.foldl advance place := by
  induction pieces generalizing place root with
  | nil =>
      refine ⟨root, rooted, ?_⟩
      rcases rooted with rfl | rfl <;> simp [walk]
  | cons piece rest ih =>
      have own := full piece (by simp)
      have later : ∀ other ∈ rest, other ≠ [] :=
        fun other member => full other (List.mem_cons_of_mem _ member)
      rw [walk, List.foldl_cons, advance]
      by_cases up : piece = ['.', '.']
      · have dots : ¬ (piece = [] ∨ piece = ['.']) := by simp [up]
        rw [if_pos (by simpa using up), if_neg dots, if_pos up]
        rcases List.eq_nil_or_concat place with rfl | ⟨above, name, rfl⟩
        · -- at the root there is nothing to step up from but the root itself
          have gone : (([] : List (List Char)).reverse ++ root).tail = [].reverse ++ [] := by
            rcases rooted with rfl | rfl <;> rfl
          rw [gone]
          exact ih (.inl rfl) later []
        · rw [List.concat_eq_append, List.reverse_concat, List.cons_append, List.tail_cons,
            List.dropLast_concat]
          exact ih rooted later above
      · rw [if_neg (by simpa using up)]
        by_cases dot : piece = ['.']
        · rw [if_pos (by simpa using dot), if_pos (.inr dot)]
          exact ih rooted later place
        · rw [if_neg (by simpa using dot), if_neg (by simp [own, dot]), if_neg up]
          have pushed := ih rooted later (place ++ [piece])
          rwa [List.reverse_concat, List.cons_append] at pushed

theorem dropInnerEmpty_cons (first last : List Char) (middle : List (List Char)) :
    dropInnerEmpty (first :: (middle ++ [last])) =
      first :: (middle.filter (fun piece => !piece.isEmpty) ++ [last]) := by
  cases middle with
  | nil => rfl
  | cons second others =>
      rw [List.cons_append, dropInnerEmpty, ← List.cons_append, List.dropLast_concat,
        List.getLast?_concat]
      rfl

theorem baseSegments_absolute (plain : ∀ name ∈ names, Plain name) :
    baseSegments (absolute names) = [] :: if names = [] then [[]] else names.dropLast := by
  rcases List.eq_nil_or_concat names with rfl | ⟨above, name, rfl⟩
  · rfl
  · rw [List.concat_eq_append] at plain ⊢
    have own := plain name (by simp)
    have cut : splitOn '/' (absolute (above ++ [name])) = ([] :: above) ++ [name] :=
      FilePath.splitOn_absolute (by simp) fun segment member => (plain segment member).whole
    unfold baseSegments
    rw [cut]
    dsimp only
    rw [List.getLast?_concat, List.dropLast_concat, Option.getD_some,
      if_neg (by simpa using own.ne_nil), if_neg (by simp), List.dropLast_concat]

/-- A path as it stands behind a scheme. -/
def rooted (path : List Char) : List Char :=
  if path.isEmpty || path.head? == some '/' then path else '/' :: path

theorem rooted_joinWith {left place tail : List (List Char)} (front : left = [] ∨ left = [[]])
    (back : tail = [] ∨ tail = [[]]) (named : ∀ name ∈ place, name ≠ [] ∧ '/' ∉ name)
    (inhabited : left ++ (place ++ tail) ≠ []) :
    rooted (if (joinWith ['/'] (left ++ (place ++ tail))).isEmpty then ['/']
      else joinWith ['/'] (left ++ (place ++ tail))) = absolute (place ++ tail) := by
  rcases front with rfl | rfl
  · cases place with
    | nil =>
        rcases back with rfl | rfl
        · exact absurd rfl inhabited
        · rfl
    | cons name rest =>
        obtain ⟨full, whole⟩ := named name (by simp)
        -- a name begins the text, and a name has no slash
        have begins : (joinWith ['/'] (name :: (rest ++ tail))).head? = name.head? :=
          FilePath.head?_joinWith full
        have other : (joinWith ['/'] (name :: (rest ++ tail))).head? ≠ some '/' := by
          rw [begins]
          exact fun head => whole (List.mem_of_head? head)
        have some : joinWith ['/'] (name :: (rest ++ tail)) ≠ [] := by
          intro empty
          rw [empty] at begins
          exact full (List.head?_eq_none_iff.mp begins.symm)
        rw [List.nil_append, List.cons_append, if_neg (by simpa using some), rooted,
          if_neg (by simpa using ⟨some, other⟩), absolute]
  · cases rest : place ++ tail with
    | nil => rfl
    | cons name others =>
        have text : joinWith ['/'] ([[]] ++ name :: others) = absolute (name :: others) := by
          simp [joinWith, absolute]
        rw [text]
        rfl

/-- Only the last piece may be empty. It leaves a slash at the end, and so do dots. -/
theorem closed_walk {middle : List (List Char)} (full : ∀ piece ∈ middle, piece ≠ [])
    (last : List Char) :
    ∃ left tail, (left = [] ∨ left = [[]]) ∧ (tail = [] ∨ tail = [[]]) ∧
      (if isDotted last then walk [] ([] :: (middle ++ [last])) ++ [[]]
        else walk [] ([] :: (middle ++ [last]))) =
          left ++ ((middle ++ [last]).foldl advance [] ++ tail) ∧
      left ++ ((middle ++ [last]).foldl advance [] ++ tail) ≠ [] := by
  have begun : ∀ others, walk [] ([] :: others) = walk [[]] others := fun _ => rfl
  rw [begun]
  by_cases empty : last = []
  · obtain ⟨left, front, walked⟩ := walk_follows (.inr rfl) full []
    refine ⟨left, [[]], front, .inr rfl, ?_, by simp⟩
    rw [List.reverse_nil, List.nil_append] at walked
    subst empty
    rw [walk_append, walked, List.foldl_append]
    simp [isDotted, walk, advance]
  · have all : ∀ piece ∈ middle ++ [last], piece ≠ [] := by
      intro piece member
      rcases List.mem_append.mp member with inside | own
      · exact full piece inside
      · rwa [List.mem_singleton.mp own]
    obtain ⟨left, front, walked⟩ := walk_follows (.inr rfl) all []
    rw [List.reverse_nil, List.nil_append] at walked
    rw [walked]
    by_cases dotted : isDotted last
    · exact ⟨left, [[]], front, .inr rfl, by rw [if_pos dotted, List.append_assoc], by simp⟩
    · refine ⟨left, [], front, .inl rfl, by rw [if_neg dotted, List.append_nil], ?_⟩
      -- a last piece that is no dots stays where it is
      have busy : ¬ (last = [] ∨ last = ['.']) ∧ last ≠ ['.', '.'] := by
        simp [isDotted] at dotted
        simp [empty, dotted]
      rw [List.foldl_append, List.foldl_cons, List.foldl_nil, advance, if_neg busy.1, if_neg busy.2]
      simp

/-- What a path makes of a base: followed from the folder, it leads to the same place, perhaps with a
slash behind it. -/
theorem rooted_mergePaths (plain : ∀ name ∈ names, Plain name) {path : List Char}
    (relative : path.head? ≠ some '/') :
    ∃ tail, (tail = [] ∨ tail = [[]]) ∧
      rooted (mergePaths (absolute names) path) =
        absolute ((splitOn '/' path).foldl advance names.dropLast ++ tail) := by
  have above : ∀ name ∈ names.dropLast, Plain name :=
    fun name member => plain name (List.dropLast_subset names member)
  obtain ⟨inner, last, pieces⟩ : ∃ inner last, splitOn '/' path = inner ++ [last] := by
    rcases List.eq_nil_or_concat (splitOn '/' path) with empty | ⟨inner, last, same⟩
    · exact absurd empty (splitAt_ne_nil _ _)
    · exact ⟨inner, last, by rw [same, List.concat_eq_append]⟩
  -- of what was written, pieces that are empty are dropped, except for the last
  let middle := names.dropLast ++ inner.filter fun piece => !piece.isEmpty
  have full : ∀ piece ∈ middle, piece ≠ [] := by
    intro piece member
    rcases List.mem_append.mp member with own | behind
    · exact (above piece own).ne_nil
    · simpa using (List.mem_filter.mp behind).2
  have segments : dropInnerEmpty (baseSegments (absolute names) ++ (inner ++ [last])) =
      [] :: (middle ++ [last]) := by
    have kept : names.dropLast.filter (fun piece => !piece.isEmpty) = names.dropLast :=
      List.filter_eq_self.mpr fun name member => by simpa using (above name member).ne_nil
    rw [baseSegments_absolute plain, List.cons_append, ← List.append_assoc, dropInnerEmpty_cons,
      List.filter_append]
    split
    · next none =>
        subst none
        rfl
    · rw [kept]
  -- an empty piece leads nowhere, so that the place is the same without it
  have place : (middle ++ [last]).foldl advance [] =
      (splitOn '/' path).foldl advance names.dropLast := by
    rw [pieces, List.foldl_append, List.foldl_append, List.foldl_append,
      foldl_advance_of_plain above, foldl_advance_filter, List.nil_append]
  have named : ∀ name ∈ (splitOn '/' path).foldl advance names.dropLast, name ≠ [] ∧ '/' ∉ name := by
    intro name member
    rcases mem_foldl_advance member with own | ⟨written, given, _⟩
    · exact ⟨(above name own).ne_nil, (above name own).whole⟩
    · refine ⟨?_, fun slash => Bool.noConfusion (not_marked_of_mem_splitAt written '/' slash)⟩
      rintro rfl
      cases given
  obtain ⟨left, tail, front, back, walked, inhabited⟩ := closed_walk full last
  rw [place] at walked inhabited
  have merged : mergePaths (absolute names) path =
      if (joinWith ['/'] (left ++ ((splitOn '/' path).foldl advance names.dropLast ++ tail))).isEmpty
      then ['/']
      else joinWith ['/'] (left ++ ((splitOn '/' path).foldl advance names.dropLast ++ tail)) := by
    have relativeTest : (path.head? == some '/') = false := by simpa using relative
    have final : (([] :: (middle ++ [last])).getLast?).getD [] = last := by
      rw [← List.cons_append, List.getLast?_concat, Option.getD_some]
    unfold mergePaths
    simp only [relativeTest, Bool.false_eq_true, if_false, pieces, segments, final]
    rw [← pieces, ← walked]
  exact ⟨tail, back, by rw [merged, rooted_joinWith front back named inhabited]⟩

end Merging

/-! ## References followed -/

/-- The reference is a relative path and nothing else: no scheme, query or fragment, no escape and no
backslash, and no blank or control character. -/
structure IsRelativePath (reference : String) : Prop where
  given : reference.toList ≠ []
  relative : reference.toList.head? ≠ some '/'
  visible : ∀ c ∈ reference.toList, 0x20 < c.toNat
  plain : ∀ c ∈ ['%', '?', '#', ':', '\\'], c ∉ reference.toList

section References

variable {reference : String}

theorem text_of_file (path : List Char) :
    Reference.text ⟨"file".toList, [], path, [], [], []⟩ = "file://".toList ++ rooted path := by
  have hosted : listed schemesWithHost "file".toList = true := by decide
  unfold Reference.text
  simp only [unlessEmpty, hosted, List.isEmpty_nil, if_true, List.append_nil]
  rfl

theorem IsRelativePath.takeScheme (path : IsRelativePath reference) :
    takeScheme reference.toList = none := by
  have colon := cutFirst_of_notMem (path.plain ':' (by simp))
  unfold Location.takeScheme
  rw [colon]
  generalize reference.toList = text
  cases text <;> rfl

/-- Everything in the reference is its path, some of it perhaps parameters. -/
theorem IsRelativePath.read (path : IsRelativePath reference) (scheme : List Char) :
    ∃ parts parameters,
      Reference.read reference.toList scheme = .ok ⟨scheme, [], parts, parameters, [], []⟩ ∧
      (listed schemesWithParameters scheme = false → parts = reference.toList ∧ parameters = []) := by
  have noHost : ∀ rest, reference.toList ≠ '/' :: '/' :: rest := by
    intro rest same
    exact path.relative (by rw [same]; rfl)
  have noFragment := cutFirst_of_notMem (path.plain '#' (by simp))
  have noQuery := cutFirst_of_notMem (path.plain '?' (by simp))
  unfold Reference.read
  simp only [tidy_of_visible path.visible, path.takeScheme, Option.getD_none]
  simp only [noFragment, noQuery]
  split
  · next known => exact ⟨_, _, rfl, fun unlisted => absurd known (by simp [unlisted])⟩
  · exact ⟨_, _, rfl, fun _ => ⟨rfl, rfl⟩⟩

theorem IsRelativePath.hasScheme (path : IsRelativePath reference) :
    hasScheme reference = .ok false := by
  obtain ⟨_, _, read, _⟩ := path.read []
  rw [Location.hasScheme, schemeOf, read]
  rfl

theorem IsRelativePath.forwardSlashes (path : IsRelativePath reference) :
    forwardSlashes reference.toList = reference.toList := by
  have forward := path.plain '\\' (by simp)
  unfold Location.forwardSlashes
  conv_rhs => rw [← List.map_id reference.toList]
  refine List.map_congr_left fun c member => if_neg ?_
  simp only [beq_iff_eq]
  rintro rfl
  exact forward member

/-- Seen from the location of a file, the reference is merged into its escaped path. -/
theorem relativeTo_fileLocation (directory path : FilePath) (relative : IsRelativePath reference) :
    relativeTo (some (fileLocation directory path)) reference =
      .ok (String.ofList ("file://".toList ++
        rooted (mergePaths (escape (absolute (path.resolve directory))) reference.toList))) := by
  have unrooted : (ofString reference).isAbsolute = false := by
    have root : FilePath.rootOf reference.toList = [] := FilePath.rootOf_of_ne relative.relative
    simp [FilePath.isAbsolute, ofString, ofChars, root]
  obtain ⟨parts, parameters, read, whole⟩ := relative.read "file".toList
  obtain ⟨rfl, rfl⟩ := whole (by decide)
  have begun : (fileLocation directory path).toList.isEmpty = false := by
    rw [toList_fileLocation]
    rfl
  have given : reference.toList.isEmpty = false := by simpa using relative.given
  have file : listed schemesResolved "file".toList = true ∧
      listed schemesWithHost "file".toList = true := by decide
  have resolved : resolveReference (fileLocation directory path).toList reference.toList =
      .ok ("file://".toList ++
        rooted (mergePaths (escape (absolute (path.resolve directory))) reference.toList)) := by
    unfold resolveReference
    simp only [begun, given, Bool.false_eq_true, if_false, read_of_path, read, bind, Except.bind,
      file.1, file.2, bne_self_eq_false, Bool.not_true, Bool.or_self, List.isEmpty_nil,
      Bool.and_false, Bool.false_and, if_true]
    exact congrArg Except.ok (text_of_file _)
  unfold relativeTo
  simp only [relative.hasScheme, unrooted, relative.forwardSlashes, resolved, bind, Except.bind, pure,
    Except.pure, Bool.or_self, Bool.false_eq_true, if_false]

/-- A text behind the scheme of files that is all path. -/
theorem located_file {rest : List Char} (visible : ∀ c ∈ '/' :: rest, 0x20 < c.toNat)
    (noFragment : '#' ∉ '/' :: rest) (noQuery : '?' ∉ '/' :: rest) :
    isRemote (String.ofList ("file://".toList ++ '/' :: rest)) = .ok false ∧
      localPath (String.ofList ("file://".toList ++ '/' :: rest)) =
        .ok (ofChars (unescape (unescape ('/' :: rest)))) := by
  have read := read_fileLocation visible noFragment noQuery
  have text : (String.ofList ("file://".toList ++ '/' :: rest)).toList =
      "file://".toList ++ '/' :: rest := String.toList_ofList
  constructor
  · rw [isRemote, schemeOf, text, read]
    rfl
  · have begins : isFileLocation (String.ofList ("file://".toList ++ '/' :: rest)) = true := by
      rw [isFileLocation, text]
      rfl
    rw [localPath, if_pos begins, namedPath, text, read]
    rfl

/-- A slash at the end makes no difference to where a path leads. -/
theorem resolve_absolute {place tail : List (List Char)} (plain : ∀ name ∈ place, Plain name)
    (back : tail = [] ∨ tail = [[]]) (directory : FilePath) :
    (ofChars (absolute (place ++ tail))).resolve directory = place := by
  have followed := FilePath.climb_meaningful (splitOn '/' (absolute (place ++ tail))) []
  have rooted : (ofChars (absolute (place ++ tail))).isAbsolute :=
    FilePath.isAbsolute_ofChars.mpr ⟨_, rfl⟩
  rw [FilePath.resolve_of_absolute rooted]
  refine Eq.trans followed ?_
  have rest : tail.foldl advance place = place := by
    rcases back with rfl | rfl <;> simp [advance]
  by_cases empty : place ++ tail = []
  · rw [empty, (List.append_eq_nil_iff.mp empty).1]
    decide
  · have whole : ∀ segment ∈ place ++ tail, '/' ∉ segment := by
      intro segment member
      rcases List.mem_append.mp member with own | last
      · exact (plain segment own).whole
      · rcases back with rfl | rfl
        · cases last
        · simp [List.mem_singleton.mp last]
    have idle : advance [] [] = [] := rfl
    rw [FilePath.splitOn_absolute empty whole, List.foldl_cons, idle, List.foldl_append,
      foldl_advance_of_plain plain, List.nil_append, rest]

theorem resolve_child (names : List (List Char)) (plain : ∀ name ∈ names, Plain name)
    (relative : IsRelativePath reference) (directory : FilePath) :
    ((⟨['/'], names⟩ : FilePath).child reference).resolve directory =
      (splitOn '/' reference.toList).foldl advance names := by
  have root : FilePath.rootOf reference.toList = [] := FilePath.rootOf_of_ne relative.relative
  have child : (⟨['/'], names⟩ : FilePath).child reference =
      ⟨['/'], names ++ (splitOn '/' reference.toList).filter FilePath.meaningful⟩ := by
    unfold FilePath.child
    simp only [ofString, ofChars, root, FilePath.isAbsolute]
    rfl
  have kept : names.filter FilePath.meaningful = names :=
    List.filter_eq_self.mpr fun name member => (plain name member).meaningful
  have followed := FilePath.climb_meaningful (names ++ splitOn '/' reference.toList) []
  rw [List.filter_append, kept, List.foldl_append, foldl_advance_of_plain plain] at followed
  rw [child, FilePath.resolve_of_absolute rfl]
  exact followed

section Following

variable {path directory : FilePath} {names segments : List (List Char)}

/-- A segment of the merged text comes from the base, escaped, or from the reference, as it is. -/
def MadeFrom (reference : String) (segment : List Char) : Prop :=
  (∃ name, segment = escape name) ∨ segment ⊆ reference.toList

theorem rooted_merge (plain : ∀ name ∈ names, Plain name) (relative : IsRelativePath reference) :
    ∃ segments tail, (tail = [] ∨ tail = [[]]) ∧ (∀ segment ∈ segments, MadeFrom reference segment) ∧
      rooted (mergePaths (escape (absolute names)) reference.toList) = absolute segments ∧
      segments.map unescape =
        (splitOn '/' reference.toList).foldl advance names.dropLast ++ tail := by
  have escaped : ∀ name ∈ names.map escape, Plain name := by
    intro name member
    obtain ⟨own, listed, rfl⟩ := List.mem_map.mp member
    exact plain_escape (plain own listed)
  obtain ⟨tail, back, merged⟩ := rooted_mergePaths escaped relative.relative
  rw [escape_absolute]
  refine ⟨_, tail, back, fun segment member => ?_, merged, ?_⟩
  · rcases List.mem_append.mp member with own | last
    · rcases mem_foldl_advance own with base | ⟨written, _⟩
      · obtain ⟨name, _, same⟩ := List.mem_map.mp (List.dropLast_subset _ base)
        exact .inl ⟨name, same.symm⟩
      · exact .inr (splitOn_subset written)
    · rcases back with rfl | rfl
      · cases last
      · rw [List.mem_singleton.mp last]
        exact .inr (List.nil_subset _)
  · have whole : (names.map escape).map unescape = names := by
      rw [List.map_map]
      conv_rhs => rw [← List.map_id names]
      exact List.map_congr_left fun name _ => unescape_escape name
    have fixed : ∀ piece ∈ splitOn '/' reference.toList, unescape piece = piece :=
      fun piece listed => unescape_of_plain fun member =>
        relative.plain '%' (by simp) (splitOn_subset listed member)
    have last : tail.map unescape = tail := by
      rcases back with rfl | rfl <;> rfl
    rw [List.map_append, last, foldl_advance_map fixed, List.map_dropLast, whole]

/-- Nothing in the merged text ends it before its time. -/
theorem visible_absolute (relative : IsRelativePath reference)
    (made : ∀ segment ∈ segments, MadeFrom reference segment) :
    (∀ c ∈ absolute segments, 0x20 < c.toNat) ∧ ∀ c ∈ ['#', '?'], c ∉ absolute segments := by
  -- what was escaped is quiet, and of the reference it is known
  have chars : ∀ c ∈ absolute segments, c = '/' ∨ isQuiet c = true ∨ c ∈ reference.toList := by
    intro c member
    rcases List.mem_cons.mp member with slash | member
    · exact .inl slash
    · rcases mem_of_mem_joinWith member with slash | ⟨segment, listed, here⟩
      · exact .inl (List.mem_singleton.mp slash)
      · rcases made segment listed with ⟨name, rfl⟩ | inside
        · exact .inr (.inl (quiet_escape name c here))
        · exact .inr (.inr (inside here))
  constructor
  · intro c member
    rcases chars c member with rfl | quiet | own
    · decide
    · simp only [isQuiet, Bool.and_eq_true, decide_eq_true_eq] at quiet
      exact quiet.1.1.1
    · exact relative.visible c own
  · intro c mark member
    have loud : c ≠ '/' ∧ isQuiet c = false ∧ c ∈ ['%', '?', '#', ':', '\\'] := by
      rcases List.mem_cons.mp mark with rfl | mark
      · decide
      · rw [List.mem_singleton.mp mark]
        decide
    rcases chars c member with slash | quiet | own
    · exact loud.1 slash
    · rw [loud.2.1] at quiet
      cases quiet
    · exact relative.plain c loud.2.2 own

/-- Escapes are undone in one segment after the other. -/
theorem unescape_made (relative : IsRelativePath reference)
    (made : ∀ segment ∈ segments, MadeFrom reference segment) :
    unescape (absolute segments) = absolute (segments.map unescape) := by
  refine unescape_absolute fun segment member => ?_
  rcases made segment member with ⟨name, rfl⟩ | inside
  · exact closed_escape name
  · exact closed_of_plain fun here => relative.plain '%' (by simp) (inside here)

theorem mem_absolute {c : Char} (own : c ≠ '/') :
    c ∈ absolute segments ↔ ∃ segment ∈ segments, c ∈ segment := by
  rw [absolute, List.mem_cons, or_iff_right own]
  constructor
  · intro member
    exact (mem_of_mem_joinWith member).resolve_left (by simpa using own)
  · rintro ⟨segment, listed, here⟩
    exact subset_joinWith listed _ here

theorem canonical_of_located {base : Option String} {located : String}
    (seen : relativeTo base reference = .ok located) (offline : isRemote located = .ok false)
    (leads : localPath located = .ok path) :
    canonical directory reference base = .ok (fileLocation directory path) := by
  unfold canonical
  simp only [seen, offline, leads, bind, Except.bind, pure, Except.pure, Bool.false_eq_true,
    if_false]

/-- The reference of a local file leads where it leads from the folder of that file as a path. -/
theorem canonical_relative (plain : ∀ name ∈ path.resolve directory, Plain name)
    (nothing : '%' ∉ absolute (path.resolve directory)) (relative : IsRelativePath reference) :
    canonical directory reference (some (fileLocation directory path)) =
      .ok (fileLocation directory
        ((⟨['/'], (path.resolve directory).dropLast⟩ : FilePath).child reference)) := by
  have located := relativeTo_fileLocation directory path relative
  generalize path.resolve directory = names at plain nothing located
  have above : ∀ name ∈ names.dropLast, Plain name :=
    fun name member => plain name (List.dropLast_subset names member)
  obtain ⟨segments, tail, back, made, merged, undone⟩ := rooted_merge plain relative
  obtain ⟨visible, unmarked⟩ := visible_absolute relative made
  obtain ⟨offline, leads⟩ := located_file visible (unmarked '#' (by simp)) (unmarked '?' (by simp))
  rw [merged] at located
  let place := (splitOn '/' reference.toList).foldl advance names.dropLast
  have origin : ∀ name ∈ place, Plain name ∧ '%' ∉ name := by
    intro name member
    rcases mem_foldl_advance member with own | ⟨written, given, stays⟩
    · refine ⟨above name own, fun percent => nothing ?_⟩
      exact (mem_absolute (by decide)).mpr ⟨name, List.dropLast_subset names own, percent⟩
    · refine ⟨⟨given, fun slash => ?_, stays⟩, fun percent => ?_⟩
      · exact Bool.noConfusion (not_marked_of_mem_splitAt written '/' slash)
      · exact relative.plain '%' (by simp) (splitOn_subset written percent)
  -- what is left after one round of unescaping has nothing to undo
  have done : '%' ∉ absolute (place ++ tail) := by
    rw [mem_absolute (by decide)]
    rintro ⟨name, listed, percent⟩
    rcases List.mem_append.mp listed with own | last
    · exact (origin name own).2 percent
    · rcases back with rfl | rfl
      · cases last
      · rw [List.mem_singleton.mp last] at percent
        cases percent
  have named : unescape (unescape (absolute segments)) = absolute (place ++ tail) := by
    rw [unescape_made relative made, undone, unescape_of_plain done]
  have target := resolve_child names.dropLast above relative directory
  have same : (ofChars (absolute (place ++ tail))).resolve directory =
      ((⟨['/'], names.dropLast⟩ : FilePath).child reference).resolve directory := by
    rw [resolve_absolute (fun name member => (origin name member).1) back, target]
  rw [absolute] at located named
  rw [named] at leads
  rw [canonical_of_located located offline leads]
  exact congrArg Except.ok (fileLocation_congr same)

theorem cut_child {names : List (List Char)} (plain : ∀ name ∈ names, Plain name)
    (relative : reference.toList.head? ≠ some '/') :
    ((⟨['/'], names⟩ : FilePath).child reference).Cut ∧
      ((⟨['/'], names⟩ : FilePath).child reference).root = ['/'] := by
  have unrooted : (ofString reference).isAbsolute = false := by
    simp [FilePath.isAbsolute, ofString, ofChars, FilePath.rootOf_of_ne relative]
  unfold FilePath.child
  simp only [unrooted, Bool.false_eq_true, if_false]
  refine ⟨⟨.inr (.inl rfl), fun segment member => ?_⟩, trivial⟩
  rcases List.mem_append.mp member with own | inner
  · exact ⟨(plain segment own).meaningful, (plain segment own).whole⟩
  · exact FilePath.mem_segments inner

end Following

end References

end Location

end SchemaSharp
