import Subtitling.Proofs.Text.Split
import Subtitling.Web.Address

/-!
What addresses make of a text behind their base. Where the base ends in a slash and a plain segment,
the text that follows goes into one place, whatever it is: into the fragment if the base has one,
else into the query if the base has one, else into the path. The rest of the address is that of the
base, but for a query or a fragment that the text itself starts.
-/

namespace Subtitling.Web

theorem ne_of_isAlphanum (c mark : Char) (h : c.isAlphanum = true)
    (hmark : mark.isAlphanum = false) : c ≠ mark := by
  rintro rfl
  rw [h] at hmark
  exact Bool.noConfusion hmark

theorem isSlash_slash : isSlash '/' = true := rfl

theorem not_isSlash_of_alphanum (c : Char) (h : c.isAlphanum = true) : isSlash c = false := by
  simp [isSlash, ne_of_isAlphanum c '/' h rfl, ne_of_isAlphanum c '\\' h rfl]

theorem percentEncode_append (set : Char → Bool) (a b : List Char) :
    percentEncode set (a ++ b) = percentEncode set a ++ percentEncode set b :=
  List.flatMap_append

theorem percentEncode_cons (set : Char → Bool) (c : Char) (rest : List Char) (h : set c = false) :
    percentEncode set (c :: rest) = c :: percentEncode set rest := by
  simp [percentEncode, h]

theorem cutAt_of_not_mem (mark : Char) (cs : List Char) (h : mark ∉ cs) :
    cutAt mark cs = (cs, none) := by
  have hpass : ∀ c ∈ cs, decide (c ≠ mark) = true := fun c hc =>
    decide_eq_true (ne_of_mem_of_not_mem hc h)
  have hrest : (cs ++ []).dropWhile (fun c => decide (c ≠ mark)) = [] :=
    List.dropWhile_append_of_pos hpass
  rw [List.append_nil] at hrest
  simp only [cutAt, hrest]

theorem cutAt_append_cons (mark : Char) (front rest : List Char) (h : mark ∉ front) :
    cutAt mark (front ++ mark :: rest) = (front, some rest) := by
  have hpass : ∀ c ∈ front, decide (c ≠ mark) = true := fun c hc =>
    decide_eq_true (ne_of_mem_of_not_mem hc h)
  simp only [cutAt, List.dropWhile_append_of_pos hpass, List.takeWhile_append_of_pos hpass]
  simp

/-- A text either has no mark or is cut at its first one. -/
theorem cutAt_cases (mark : Char) (cs : List Char) :
    mark ∉ cs ∧ cutAt mark cs = (cs, none) ∨
      ∃ front rest, mark ∉ front ∧ cs = front ++ mark :: rest ∧
        cutAt mark cs = (front, some rest) := by
  by_cases h : mark ∈ cs
  · obtain ⟨front, rest, hcs, hfront⟩ := List.eq_append_cons_of_mem h
    refine .inr ⟨front, rest, hfront, hcs, ?_⟩
    rw [hcs, cutAt_append_cons mark front rest hfront]
  · exact .inl ⟨h, cutAt_of_not_mem mark cs h⟩

/-- What stands before the mark is not looked at. -/
theorem cutAt_append_of_not_mem (mark : Char) (front rest : List Char) (h : mark ∉ front) :
    cutAt mark (front ++ rest) = (front ++ (cutAt mark rest).1, (cutAt mark rest).2) := by
  rcases cutAt_cases mark rest with ⟨hrest, hcut⟩ | ⟨before, behind, hbefore, rfl, hcut⟩
  · rw [hcut, cutAt_of_not_mem mark _ (by simp [h, hrest])]
  · rw [hcut, ← List.append_assoc, cutAt_append_cons mark _ _ (by simp [h, hbefore])]

/-- What stands behind a slash never adds to the scheme. A scheme ends at a colon, and a slash
cannot stand in front of that. -/
theorem cutScheme_append_slash (cs rest : List Char) : cutScheme (cs ++ '/' :: rest) =
    (cutScheme cs).map fun found => (found.1, found.2 ++ '/' :: rest) := by
  rcases cutAt_cases ':' cs with ⟨hcs, hcut⟩ | ⟨front, body, hfront, rfl, hcut⟩
  · have hslash := cutAt_append_of_not_mem ':' cs ('/' :: rest) hcs
    have hkept : (cutAt ':' ('/' :: rest)).1.head? = some '/' := by
      rcases cutAt_cases ':' ('/' :: rest) with ⟨-, hrest⟩ | ⟨before, more, -, heq, hrest⟩
      · rw [hrest]
        rfl
      · rw [hrest]
        cases before with
        | nil => cases heq
        | cons c before =>
          cases heq
          rfl
    obtain ⟨more, hmore⟩ := List.head?_eq_some_iff.mp hkept
    simp only [cutScheme, hslash, hcut, hmore]
    cases cs with
    | nil => cases (cutAt ':' ('/' :: rest)).2 <;> rfl
    | cons c name => cases (cutAt ':' ('/' :: rest)).2 <;> simp [isSchemeChar]
  · rw [List.append_assoc, List.cons_append]
    simp only [cutScheme, cutAt_append_cons ':' front _ hfront]
    cases front with
    | nil => rfl
    | cons c name =>
      simp only
      split <;> rfl

def cleanedFront (cs : List Char) : List Char :=
  (cs.dropWhile fun c => decide (c ≤ ' ')).filter fun c => !(c = '\t' || c = '\n' || c = '\r')

def cleanedBack (cs : List Char) : List Char :=
  (cs.reverse.dropWhile fun c => decide (c ≤ ' ')).reverse.filter
    fun c => !(c = '\t' || c = '\n' || c = '\r')

section
variable {α : Type} (p : α → Bool) (front rest : List α) (a : α) (h : p a = false)
include h

theorem dropWhile_append_cons :
    (front ++ a :: rest).dropWhile p = front.dropWhile p ++ a :: rest := by
  induction front with
  | nil => simp [h]
  | cons b front ih =>
    cases hb : p b with
    | true => simp [hb, ih]
    | false => simp [hb]

theorem takeWhile_append_cons : (front ++ a :: rest).takeWhile p = front.takeWhile p := by
  induction front with
  | nil => simp [h]
  | cons b front ih =>
    cases hb : p b with
    | true => simp [hb, ih]
    | false => simp [hb]

end

theorem dropWhile_idle_append_slash (front rest : List Char) :
    (front ++ '/' :: rest).dropWhile (fun c => decide (c ≤ ' ')) =
      front.dropWhile (fun c => decide (c ≤ ' ')) ++ '/' :: rest :=
  dropWhile_append_cons _ front rest '/' rfl

theorem cleaned_append_slash (cs rest : List Char) :
    cleaned (cs ++ '/' :: rest) = cleanedFront cs ++ '/' :: cleanedBack rest := by
  simp only [cleaned, dropWhile_idle_append_slash, List.reverse_append, List.reverse_cons,
    List.append_assoc, List.singleton_append, List.reverse_reverse, List.filter_append,
    List.filter_cons, cleanedFront, cleanedBack]
  rfl

theorem mem_of_mem_cleanedBack (cs : List Char) (c : Char) (h : c ∈ cleanedBack cs) : c ∈ cs := by
  rw [cleanedBack, List.mem_filter, List.mem_reverse] at h
  exact List.mem_reverse.mp ((List.dropWhile_sublist _).mem h.1)

theorem cleanedBack_append_slash (cs rest : List Char) : cleanedBack (cs ++ '/' :: rest) =
    cs.filter (fun c => !(c = '\t' || c = '\n' || c = '\r')) ++ '/' :: cleanedBack rest := by
  simp only [cleanedBack, List.reverse_append, List.reverse_cons, List.append_assoc,
    List.singleton_append, dropWhile_idle_append_slash, List.reverse_reverse, List.filter_append,
    List.filter_cons]
  rfl

theorem cleanedFront_append (cs part : List Char) (h : ∀ c ∈ part, c.isAlphanum = true) :
    cleanedFront (cs ++ '/' :: part) = cleanedFront cs ++ '/' :: part := by
  have hkept : part.filter (fun c => !(c = '\t' || c = '\n' || c = '\r')) = part := by
    rw [List.filter_eq_self]
    intro c hc
    simp [ne_of_isAlphanum c '\t' (h c hc) rfl, ne_of_isAlphanum c '\n' (h c hc) rfl,
      ne_of_isAlphanum c '\r' (h c hc) rfl]
  simp only [cleanedFront, dropWhile_idle_append_slash, List.filter_append, List.filter_cons,
    hkept]
  rfl

/-- What becomes of the segments before a path's end does not depend on that end. The way back
can take away only what has been resolved so far, which is handed on as a list. -/
theorem exists_resolveDots_eq (latest parts : List (List Char)) :
    ∃ resolved, ∀ tail, tail ≠ [] →
      resolveDots false latest (parts ++ tail) = resolveDots false resolved tail := by
  induction parts generalizing latest with
  | nil => exact ⟨latest, fun tail _ => rfl⟩
  | cons part rest ih =>
    have hmore (tail : List (List Char)) (h : tail ≠ []) : (rest ++ tail).isEmpty = false := by
      simp [h]
    by_cases hdouble : isDoubleDot part = true
    · obtain ⟨resolved, hresolved⟩ := ih (shorten latest)
      refine ⟨resolved, fun tail h => ?_⟩
      simp [resolveDots, hdouble, hmore tail h, hresolved tail h]
    · by_cases hdot : isDot part = true
      · obtain ⟨resolved, hresolved⟩ := ih latest
        refine ⟨resolved, fun tail h => ?_⟩
        simp [resolveDots, hdouble, hdot, hmore tail h, hresolved tail h]
      · obtain ⟨resolved, hresolved⟩ := ih (percentEncode inPathSet part :: latest)
        refine ⟨resolved, fun tail h => ?_⟩
        simp [resolveDots, hdouble, hdot, hresolved tail h]

/-- Behind a host, the segments of a path that come after a slash are its last ones. -/
theorem exists_readPathAfterHost_eq (cs : List Char) : ∃ resolved, ∀ rest,
    readPathAfterHost true (cs ++ '/' :: rest) =
      resolveDots false resolved (Text.splitWhen isSlash rest) := by
  have hcut (front rest : List Char) : readPath true (front ++ '/' :: rest) =
      resolveDots false [] (Text.splitWhen isSlash front ++ Text.splitWhen isSlash rest) := by
    rw [← Text.splitWhen_append_cons isSlash front rest '/' isSlash_slash]
    rfl
  cases cs with
  | nil => exact ⟨[], fun rest => rfl⟩
  | cons c front =>
    obtain ⟨resolved, hresolved⟩ :=
      exists_resolveDots_eq [] (Text.splitWhen isSlash (if isSlash c then front else c :: front))
    refine ⟨resolved, fun rest => ?_⟩
    rw [← hresolved _ (Text.splitWhen_ne_nil _ _), ← hcut, List.cons_append, readPathAfterHost,
      isSeparator, if_pos rfl]
    split <;> rfl

/-- The authority of a web address decides alone whether there is an address, and the path behind
only becomes a path. -/
theorem ofAuthority_web (scheme : String) (hweb : isWebScheme scheme = true)
    (authority : List Char) :
    (∀ isEnd path, ofAuthority? scheme isEnd authority path = none) ∨
      ∃ (a : Address) (rest : List Char), a.host ≠ none ∧ ∀ isEnd path,
        ofAuthority? scheme isEnd authority path =
          some { a with path := .segments (readPathAfterHost true (rest ++ path)),
                        query := none, fragment := none } := by
  cases hname : (cutHost false (cutCredentials authority).2).1.isEmpty with
  | true =>
    left
    intro isEnd path
    simp only [ofAuthority?, hname, hweb, Bool.true_or, Bool.and_true, if_true]
  | false =>
    cases hhost : host? true (cutHost false (cutCredentials authority).2).1 with
    | none =>
      left
      intro isEnd path
      simp [ofAuthority?, hname, hweb, hhost]
    | some host =>
      let credentials := cutAt ':' ((cutCredentials authority).1.getD [])
      let found (number : Option Nat) : Address := ⟨scheme,
        percentEncode inCredentialSet credentials.1,
        percentEncode inCredentialSet (credentials.2.getD []), some host, number, .segments [],
        none, none⟩
      cases hdigits : (cutHost false (cutCredentials authority).2).2 with
      | none =>
        right
        refine ⟨found none, [], Option.some_ne_none host, fun isEnd path => ?_⟩
        simp [ofAuthority?, hname, hweb, hhost, hdigits, found, credentials]
      | some cs =>
        cases hdoor : readDoorNumber? scheme cs with
        | none =>
          left
          intro isEnd path
          simp [ofAuthority?, hname, hweb, hhost, hdigits, hdoor]
        | some door =>
          right
          refine ⟨found door.1, door.2, Option.some_ne_none host, fun isEnd path => ?_⟩
          simp [ofAuthority?, hname, hweb, hhost, hdigits, hdoor, found, credentials]

/-- What comes of the body of a web address does not depend on what stands behind a plain segment
and a slash, beyond the end of the path. -/
theorem ofBody_web (scheme : String) (hweb : isWebScheme scheme = true) (cs part : List Char)
    (hne : part ≠ []) (hpart : ∀ c ∈ part, c.isAlphanum = true) :
    (∀ isEnd rest, ofBody? scheme isEnd (cs ++ '/' :: part ++ '/' :: rest) = none) ∨
      ∃ (a : Address) (resolved : List (List Char)), a.host ≠ none ∧ ∀ isEnd rest,
        ofBody? scheme isEnd (cs ++ '/' :: part ++ '/' :: rest) =
          some { a with
            path := .segments (resolveDots false resolved (Text.splitWhen isSlash rest)),
            query := none, fragment := none } := by
  have hfile : scheme ≠ "file" := by
    rintro rfl
    exact absurd hweb (by decide)
  obtain ⟨c, name, rfl⟩ := List.exists_cons_of_ne_nil hne
  have hc := not_isSlash_of_alphanum c (hpart c (by simp))
  let body := (cs ++ ['/']).dropWhile isSlash ++ c :: name
  let authority := body.takeWhile fun c => !isSlash c
  let path := body.dropWhile fun c => !isSlash c
  have hbody (isEnd : Bool) (rest : List Char) :
      ofBody? scheme isEnd (cs ++ '/' :: c :: name ++ '/' :: rest) =
        ofAuthority? scheme isEnd authority (path ++ '/' :: rest) := by
    have hdrop := dropWhile_append_cons isSlash (cs ++ ['/']) (name ++ '/' :: rest) c hc
    have hsplit : cs ++ '/' :: c :: name ++ '/' :: rest =
        cs ++ ['/'] ++ c :: (name ++ '/' :: rest) := by simp
    have hrest : (cs ++ ['/']).dropWhile isSlash ++ c :: (name ++ '/' :: rest) =
        body ++ '/' :: rest := by simp [body]
    simp only [ofBody?, hfile, if_false, hweb, if_true, hsplit, hdrop, hrest]
    rw [takeWhile_append_cons _ body _ '/' rfl, dropWhile_append_cons _ body _ '/' rfl]
  rcases ofAuthority_web scheme hweb authority with hnone | ⟨a, front, ha, hsome⟩
  · exact .inl fun isEnd rest => by rw [hbody, hnone]
  · obtain ⟨resolved, hresolved⟩ := exists_readPathAfterHost_eq (front ++ path)
    refine .inr ⟨a, resolved, ha, fun isEnd rest => ?_⟩
    rw [hbody, hsome, ← List.append_assoc, hresolved]

theorem scheme_of_ofAuthority (scheme : String) (isEnd : Bool) (authority path : List Char)
    (a : Address) (h : ofAuthority? scheme isEnd authority path = some a) : a.scheme = scheme := by
  simp only [ofAuthority?] at h
  split at h
  · cases h
  · simp only [Option.bind_eq_bind, Option.bind_eq_some_iff] at h
    obtain ⟨host, -, h⟩ := h
    split at h
    · cases h
      rfl
    · simp only [Option.bind_eq_some_iff] at h
      obtain ⟨door, -, h⟩ := h
      cases h
      rfl

/-- An address that was read as that of a file has the scheme of files, so it never is where
requests go. -/
theorem scheme_of_ofFile (cs : List Char) (a : Address) (h : ofFile? cs = some a) :
    a.scheme = "file" := by
  simp only [ofFile?] at h
  split at h
  · split at h
    · split at h
      · cases h
        rfl
      · rw [Option.map_eq_some_iff] at h
        obtain ⟨host, -, rfl⟩ := h
        rfl
    · cases h
      rfl
  · cases h
    rfl
  · cases h
    rfl

theorem scheme_of_ofBody (scheme : String) (isEnd : Bool) (cs : List Char) (a : Address)
    (h : ofBody? scheme isEnd cs = some a) : a.scheme = scheme := by
  simp only [ofBody?] at h
  split at h
  · rename_i hfile
    rw [scheme_of_ofFile cs a h, hfile]
  · split at h
    · exact scheme_of_ofAuthority scheme isEnd _ _ a h
    · split at h
      · exact scheme_of_ofAuthority scheme isEnd _ _ a h
      · cases h
        rfl
      · cases h
        rfl

/-- The characters that the query of an address does not hold. -/
def querySet (scheme : String) : Char → Bool :=
  if isWebScheme scheme || scheme = "file" then inSpecialQuerySet else inQuerySet

def ofParts? (scheme : String) (body : List Char) (query fragment : Option (List Char)) :
    Option Address :=
  (ofBody? scheme (query.isNone && fragment.isNone) body).map fun a =>
    { a with query := query.map (percentEncode (querySet scheme)),
             fragment := fragment.map (percentEncode inFragmentSet) }

theorem Address.parse_eq (text : String) (cs : List Char) (fragment : Option (List Char))
    (h : cutAt '#' (cleaned text.toList) = (cs, fragment)) :
    Address.parse? text = (cutScheme cs).bind fun found =>
      ofParts? found.1 (cutAt '?' found.2).1 (cutAt '?' found.2).2 fragment := by
  simp only [parse?, h, ofParts?, Option.map_eq_bind]
  rfl

theorem querySet_slash (scheme : String) : querySet scheme '/' = false := by
  simp only [querySet]
  split <;> rfl

/-- Where the text goes that stands behind a base. -/
inductive Placed (read : List Char → Option Address) : Prop
  /-- There is no address, or none of the web. -/
  | nowhere (h : ∀ rest a, read rest = some a → isWebScheme a.scheme = false)
  | inFragment (a : Address) (front : List Char)
      (h : ∀ rest, read rest = some { a with
        fragment := some (front ++ '/' :: percentEncode inFragmentSet (cleanedBack rest)) })
  | inQuery (a : Address) (front : List Char)
      (h : ∀ rest, let cut := cutAt '#' (cleanedBack rest)
        read rest = some { a with
          query := some (front ++ '/' :: percentEncode (querySet a.scheme) cut.1)
          fragment := cut.2.map (percentEncode inFragmentSet) })
  | inPath (a : Address) (host_ne : a.host ≠ none) (resolved : List (List Char))
      (h : ∀ rest, let cut := cutAt '#' (cleanedBack rest)
        let body := cutAt '?' cut.1
        read rest = some { a with
          path := .segments (resolveDots false resolved (Text.splitWhen isSlash body.1))
          query := body.2.map (percentEncode (querySet a.scheme))
          fragment := cut.2.map (percentEncode inFragmentSet) })

theorem Placed.of_none (read : List Char → Option Address) (h : ∀ rest, read rest = none) :
    Placed read := by
  refine .nowhere fun rest a ha => ?_
  rw [h rest] at ha
  cases ha

section
variable {read : List Char → Option Address} (scheme : String) (part : List Char)

/-- What follows a base with a fragment belongs to the fragment. Nothing of it reaches the host, the
path or the query, so it makes no difference whether there is an address. -/
theorem placed_in_fragment (before fragment : List Char)
    (h : ∀ rest, read rest = (cutScheme before).bind fun found =>
      ofParts? found.1 (cutAt '?' found.2).1 (cutAt '?' found.2).2
        (some (fragment ++ '/' :: part ++ '/' :: cleanedBack rest))) : Placed read := by
  cases hfound : cutScheme before with
  | none =>
    refine Placed.of_none _ fun rest => ?_
    rw [h, hfound]
    rfl
  | some found =>
    simp only [hfound, Option.bind_some, ofParts?, Option.isNone_some, Bool.and_false,
      Option.map_some, percentEncode_append, percentEncode_cons inFragmentSet '/' _ rfl] at h
    cases hbody : ofBody? found.1 false (cutAt '?' found.2).1 with
    | none =>
      refine Placed.of_none _ fun rest => ?_
      rw [h, hbody]
      rfl
    | some a =>
      refine .inFragment { a with
          query := (cutAt '?' found.2).2.map (percentEncode (querySet found.1)) }
        (percentEncode inFragmentSet fragment ++ '/' :: percentEncode inFragmentSet part)
        fun rest => ?_
      rw [h, hbody]
      simp

/-- What follows a base with a query goes into the query, up to where it starts a fragment. -/
theorem placed_in_query (path query : List Char)
    (h : ∀ rest, let cut := cutAt '#' (cleanedBack rest)
      read rest = ofParts? scheme path (some (query ++ '/' :: part ++ '/' :: cut.1)) cut.2) :
    Placed read := by
  simp only [ofParts?, Option.map_some, Option.isNone_some, Bool.false_and, percentEncode_append,
    percentEncode_cons _ '/' _ (querySet_slash scheme)] at h
  cases hbody : ofBody? scheme false path with
  | none =>
    refine Placed.of_none _ fun rest => ?_
    rw [h, hbody]
    rfl
  | some a =>
    have hsame : a.scheme = scheme := scheme_of_ofBody scheme _ _ a hbody
    refine .inQuery a (percentEncode (querySet scheme) query ++
      '/' :: percentEncode (querySet scheme) part) fun rest => ?_
    rw [h, hbody]
    simp [hsame]

/-- What follows a base without query and fragment goes into the path, up to where it starts one of
these. The plain segment in front of it is part of the path too, so that the host is over there. -/
theorem placed_in_path (body : List Char) (hne : part ≠ [])
    (hpart : ∀ c ∈ part, c.isAlphanum = true)
    (h : ∀ rest, let cut := cutAt '#' (cleanedBack rest)
      read rest = ofParts? scheme (body ++ '/' :: part ++ '/' :: (cutAt '?' cut.1).1)
        (cutAt '?' cut.1).2 cut.2) : Placed read := by
  cases hweb : isWebScheme scheme with
  | false =>
    refine .nowhere fun rest a ha => ?_
    rw [h, ofParts?, Option.map_eq_some_iff] at ha
    obtain ⟨b, hb, rfl⟩ := ha
    rw [← hweb, ← scheme_of_ofBody scheme _ _ b hb]
  | true =>
    rcases ofBody_web scheme hweb body part hne hpart with hnone | ⟨a, resolved, ha, hsome⟩
    · refine Placed.of_none _ fun rest => ?_
      rw [h, ofParts?, hnone]
      rfl
    · have hsame : a.scheme = scheme := by
        rw [← scheme_of_ofBody scheme _ _ _ (hsome true [])]
      refine .inPath a ha resolved fun rest => ?_
      rw [h, ofParts?, hsome, hsame]
      rfl

end

/-- Every base with a plain segment behind it puts what follows into one place, and the base alone
decides which. -/
theorem placed_parse (base part : List Char) (hne : part ≠ [])
    (hpart : ∀ c ∈ part, c.isAlphanum = true) :
    Placed fun rest => Address.parse? (String.ofList (base ++ '/' :: part ++ '/' :: rest)) := by
  let front := cleanedFront base
  have hmark (mark : Char) (h : mark.isAlphanum = false) (hslash : mark ≠ '/') :
      mark ∉ '/' :: (part ++ ['/']) := by
    simp only [List.mem_cons, List.mem_append, List.not_mem_nil, or_false, not_or]
    exact ⟨hslash, fun hmem => ne_of_isAlphanum mark mark (hpart mark hmem) h rfl, hslash⟩
  have hjoined (cs u : List Char) :
      cs ++ '/' :: part ++ '/' :: u = cs ++ ('/' :: (part ++ ['/']) ++ u) := by simp
  have hcleaned (rest : List Char) :
      cleaned (String.ofList (base ++ '/' :: part ++ '/' :: rest)).toList =
        front ++ ('/' :: (part ++ ['/']) ++ cleanedBack rest) := by
    rw [String.toList_ofList, cleaned_append_slash, cleanedFront_append base part hpart, hjoined]
  rcases cutAt_cases '#' front with ⟨hfront, -⟩ | ⟨before, fragment, hbefore, hfront, -⟩
  · -- The fragment, if there is one, starts in the text.
    have hparse (rest : List Char) := Address.parse_eq
      (String.ofList (base ++ '/' :: part ++ '/' :: rest)) _ _ (by
        rw [hcleaned, cutAt_append_of_not_mem '#' front _ hfront,
          cutAt_append_of_not_mem '#' _ _ (hmark '#' rfl (by decide))])
    have hscheme (u : List Char) : cutScheme (front ++ ('/' :: (part ++ ['/']) ++ u)) =
        (cutScheme front).map fun found =>
          (found.1, found.2 ++ ('/' :: (part ++ ['/']) ++ u)) := by
      have happend := cutScheme_append_slash front (part ++ '/' :: u)
      simpa using happend
    simp only [hscheme] at hparse
    cases hfound : cutScheme front with
    | none =>
      refine Placed.of_none _ fun rest => ?_
      rw [hparse, hfound]
      rfl
    | some found =>
      obtain ⟨scheme, body⟩ := found
      simp only [hfound, Option.map_some, Option.bind_some] at hparse
      rcases cutAt_cases '?' body with ⟨hbody, -⟩ | ⟨path, query, hpath, rfl, -⟩
      · have hcut (u : List Char) : cutAt '?' (body ++ ('/' :: (part ++ ['/']) ++ u)) =
            (body ++ '/' :: part ++ '/' :: (cutAt '?' u).1, (cutAt '?' u).2) := by
          rw [cutAt_append_of_not_mem '?' _ _ hbody,
            cutAt_append_of_not_mem '?' _ _ (hmark '?' rfl (by decide)), hjoined]
        simp only [hcut] at hparse
        exact placed_in_path scheme part body hne hpart hparse
      · have hcut (u : List Char) :
            cutAt '?' (path ++ '?' :: query ++ ('/' :: (part ++ ['/']) ++ u)) =
              (path, some (query ++ '/' :: part ++ '/' :: u)) := by
          rw [List.append_assoc, List.cons_append, cutAt_append_cons '?' path _ hpath, hjoined]
        simp only [hcut] at hparse
        exact placed_in_query scheme part path query hparse
  · -- The base has a fragment.
    refine placed_in_fragment part before fragment fun rest => Address.parse_eq _ _ _ ?_
    rw [hcleaned, hfront, List.append_assoc, List.cons_append,
      cutAt_append_cons '#' before _ hbefore, hjoined]

structure Address.SameHost (a b : Address) : Prop where
  scheme : b.scheme = a.scheme
  user : b.user = a.user
  password : b.password = a.password
  host : b.host = a.host
  doorNumber : b.doorNumber = a.doorNumber
  /-- Where there is no host, the paths have to be told from hosts in the same way. -/
  looks : a.host = none → b.path.looksLikeHost = a.path.looksLikeHost

def Address.behind (a : Address) : List Char :=
  a.target.toList ++ (match a.fragment with
    | some fragment => '#' :: fragment
    | none => [])

/-- The bytes of the text of an address: those up to the host and those behind. -/
theorem Address.utf8ByteSize_text (a : Address) : a.text.utf8ByteSize =
    a.scheme.utf8ByteSize + 1 + (String.ofList a.hostChars).utf8ByteSize +
      (String.ofList a.behind).utf8ByteSize := by
  have hcolon : ":".utf8ByteSize = 1 := rfl
  simp only [text, behind, String.ofList_append, String.ofList_toList, String.utf8ByteSize_append,
    hcolon]
  cases a.fragment with
  | none => rfl
  | some fragment =>
    have hmark : String.ofList ('#' :: fragment) = "#" ++ String.ofList fragment :=
      String.ofList_cons
    simp only [hmark]
    omega

theorem Address.SameHost.hostChars_eq {a b : Address} (h : a.SameHost b) :
    b.hostChars = a.hostChars := by
  have hlooks := h.looks
  simp only [hostChars, credentialChars, h.host, h.user, h.password, h.doorNumber]
  cases hhost : a.host with
  | none => simp [hlooks hhost]
  | some host => rfl

theorem Address.SameHost.withoutCredentials {a b : Address} (h : a.SameHost b) :
    a.withoutCredentials.SameHost b.withoutCredentials := by
  simp only [Address.withoutCredentials, h.user]
  split
  · exact ⟨h.scheme, rfl, rfl, h.host, h.doorNumber, h.looks⟩
  · exact h

theorem Address.behind_withoutCredentials (a : Address) :
    a.withoutCredentials.behind = a.behind := by
  simp only [Address.withoutCredentials]
  split <;> rfl

/-- What stands behind a base decides neither whether there is an address nor on which host.
Fragment, query and path may differ, but scheme, credentials, host and number are those of the
base. -/
theorem Placed.exists_sameHost {read : List Char → Option Address} (h : Placed read)
    (rest other : List Char) (a : Address) (ha : read rest = some a)
    (hweb : isWebScheme a.scheme = true) : ∃ b, read other = some b ∧ a.SameHost b := by
  cases h with
  | nowhere hnot =>
    rw [hnot rest a ha] at hweb
    cases hweb
  | inFragment found front hread =>
    rw [hread] at ha
    cases ha
    exact ⟨_, hread other, rfl, rfl, rfl, rfl, rfl, fun _ => rfl⟩
  | inQuery found front hread =>
    rw [hread] at ha
    cases ha
    exact ⟨_, hread other, rfl, rfl, rfl, rfl, rfl, fun _ => rfl⟩
  | inPath found host_ne resolved hread =>
    rw [hread] at ha
    cases ha
    exact ⟨_, hread other, rfl, rfl, rfl, rfl, rfl, fun hnone => absurd hnone host_ne⟩

theorem Address.target_withoutCredentials (a : Address) :
    a.withoutCredentials.target = a.target := by
  simp only [Address.withoutCredentials]
  split <;> rfl

theorem Address.fragment_withoutCredentials (a : Address) :
    a.withoutCredentials.fragment = a.fragment := by
  simp only [Address.withoutCredentials]
  split <;> rfl

theorem Address.scheme_withoutCredentials (a : Address) :
    a.withoutCredentials.scheme = a.scheme := by
  simp only [Address.withoutCredentials]
  split <;> rfl

theorem Address.isWebScheme_of_isReachable (a : Address)
    (h : a.withoutCredentials.isReachable = true) : isWebScheme a.scheme = true := by
  simp only [Address.isReachable, Address.isService, a.scheme_withoutCredentials,
    Bool.and_eq_true, Bool.or_eq_true, decide_eq_true_eq] at h
  rcases h.1.1 with hhttp | hhttps
  · rw [hhttp]
    decide
  · rw [hhttps]
    decide

/-- A second address on a host that can be reached can be reached too, unless it is too long. -/
theorem Address.SameHost.isReachable {a b : Address} (h : a.SameHost b)
    (hshort : b.text.utf8ByteSize ≤ Address.longestText) (ha : a.isReachable = true) :
    b.isReachable = true := by
  simp only [Address.isReachable, Bool.and_eq_true, decide_eq_true_eq, isService, h.scheme,
    h.host] at ha ⊢
  exact ⟨ha.1, hshort⟩

theorem Address.SameHost.utf8ByteSize_text_le {a b : Address} (h : a.SameHost b)
    (hshorter : (String.ofList b.behind).utf8ByteSize ≤ (String.ofList a.behind).utf8ByteSize) :
    b.text.utf8ByteSize ≤ a.text.utf8ByteSize := by
  rw [Address.utf8ByteSize_text, Address.utf8ByteSize_text, h.hostChars_eq, h.scheme]
  omega

end Subtitling.Web
