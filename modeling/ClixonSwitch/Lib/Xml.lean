import ClixonSwitch.Lib.Text

/-!
XML without mixed content: a text is read as tags and character data, and the tags as
elements where each end tag has the name of the last start tag that is still open. What
is written from elements is read back as the same elements, with their texts unescaped.
-/
namespace ClixonSwitch.Lib.Xml
open Lib.Text

section Escape

def escapeChar : Char → List Char
  | '&' => ['&', 'a', 'm', 'p', ';']
  | '<' => ['&', 'l', 't', ';']
  | '>' => ['&', 'g', 't', ';']
  | c => [c]

def escaped (text : List Char) : List Char := text.flatMap escapeChar

/-- Character data without its references. -/
def unescape : List Char → List Char
  | [] => []
  | '&' :: 'a' :: 'm' :: 'p' :: ';' :: rest => '&' :: unescape rest
  | '&' :: 'l' :: 't' :: ';' :: rest => '<' :: unescape rest
  | '&' :: 'g' :: 't' :: ';' :: rest => '>' :: unescape rest
  | c :: rest => c :: unescape rest

/-- The characters that are not part of the markup. -/
def IsPlain (c : Char) : Prop := c ≠ '<' ∧ c ≠ '>' ∧ c ≠ '&'

instance (c : Char) : Decidable (IsPlain c) :=
  inferInstanceAs (Decidable (c ≠ '<' ∧ c ≠ '>' ∧ c ≠ '&'))

theorem escapeChar_of_plain {c : Char} (h : IsPlain c) : escapeChar c = [c] := by
  unfold escapeChar
  split
  · exact absurd rfl h.2.2
  · exact absurd rfl h.1
  · exact absurd rfl h.2.1
  · rfl

theorem escaped_of_plain {text : List Char} (h : ∀ c ∈ text, IsPlain c) : escaped text = text := by
  induction text with
  | nil => rfl
  | cons c rest ih =>
    rw [escaped, List.flatMap_cons, escapeChar_of_plain (h c (by simp)), ← escaped,
      ih fun d hd => h d (by simp [hd])]
    rfl

theorem unescape_cons {c : Char} (h : c ≠ '&') (rest : List Char) :
    unescape (c :: rest) = c :: unescape rest := by
  rw [unescape] <;> simp [h]

/-- A text is recovered from the character data it is written as. -/
theorem unescape_escaped (text : List Char) : unescape (escaped text) = text := by
  induction text with
  | nil => rfl
  | cons c rest ih =>
    rw [escaped, List.flatMap_cons, ← escaped]
    by_cases hplain : IsPlain c
    · rw [escapeChar_of_plain hplain, List.singleton_append, unescape_cons hplain.2.2, ih]
    · have hmarkup : c = '<' ∨ c = '>' ∨ c = '&' := by
        unfold IsPlain at hplain
        tauto
      rcases hmarkup with rfl | rfl | rfl
      · exact congrArg ('<' :: ·) ih
      · exact congrArg ('>' :: ·) ih
      · exact congrArg ('&' :: ·) ih

theorem not_mem_escaped (text : List Char) : '<' ∉ escaped text ∧ '>' ∉ escaped text := by
  have hchar : ∀ c, '<' ∉ escapeChar c ∧ '>' ∉ escapeChar c := by
    intro c
    by_cases hplain : IsPlain c
    · rw [escapeChar_of_plain hplain]
      simp [hplain.1.symm, hplain.2.1.symm]
    · have hmarkup : c = '<' ∨ c = '>' ∨ c = '&' := by
        unfold IsPlain at hplain
        tauto
      rcases hmarkup with rfl | rfl | rfl <;> decide
  simp only [escaped, List.mem_flatMap, not_exists, not_and]
  exact ⟨fun c _ => (hchar c).1, fun c _ => (hchar c).2⟩

end Escape

section Elements

def PlainName (name : String) : Bool :=
  name.toList.all fun c => c != '<' && c != '>' && c != ' ' && c != '/'

def PlainAttrs (attrs : String) : Bool := attrs.toList.all fun c => c != '<' && c != '>'

/-- A start tag that is read as such: neither the name nor the attributes end it. -/
structure Tag where
  name : String
  attrs : String
  plainName : PlainName name = true
  plainAttrs : PlainAttrs attrs = true

/-- An element with either a text or other elements in it. -/
inductive Element where
  | elem (tag : Tag) (text : String) (children : List Element)

def Tag.label (tag : Tag) : List Char :=
  if tag.attrs.isEmpty then tag.name.toList else tag.name.toList ++ ' ' :: tag.attrs.toList

def Tag.start (tag : Tag) : List Char := '<' :: (tag.label ++ ['>'])

def Tag.stop (tag : Tag) : List Char := '<' :: '/' :: (tag.name.toList ++ ['>'])

mutual

def Element.render : Element → List Char
  | .elem tag text children =>
    tag.start ++ escaped text.toList ++ renderAll children ++ tag.stop

def renderAll : List Element → List Char
  | [] => []
  | node :: rest => node.render ++ renderAll rest

end

theorem renderAll_append (nodes more : List Element) :
    renderAll (nodes ++ more) = renderAll nodes ++ renderAll more := by
  induction nodes with
  | nil => rfl
  | cons node rest ih => rw [List.cons_append, renderAll, ih, renderAll, List.append_assoc]

theorem renderAll_flatMap {α : Type} (xs : List α) (docs : α → List Element) :
    renderAll (xs.flatMap docs) = xs.flatMap fun x => renderAll (docs x) := by
  induction xs with
  | nil => rfl
  | cons x rest ih => rw [List.flatMap_cons, renderAll_append, ih, List.flatMap_cons]

theorem renderAll_map {α : Type} (xs : List α) (doc : α → Element) :
    renderAll (xs.map doc) = xs.flatMap fun x => (doc x).render := by
  induction xs with
  | nil => rfl
  | cons x rest ih => rw [List.map_cons, renderAll, ih, List.flatMap_cons]

end Elements

section Reader

inductive Token where
  | start (name attrs : List Char)
  | stop (name : List Char)
  | chars (text : List Char)
  deriving DecidableEq, Repr

def Token.isTag : Token → Bool
  | .chars _ => false
  | _ => true

/-- What stands between '<' and '>'. -/
def tagToken : List Char → Token
  | '/' :: name => .stop name
  | label =>
    match splitOnce [' '] label with
    | none => .start label []
    | some (name, attrs) => .start name attrs

def charsToken (text : List Char) : List Token := if text = [] then [] else [.chars text]

/-- A tag after its '<', and the character data up to the next one. -/
def pieceTokens (piece : List Char) : Option (List Token) :=
  (splitOnce ['>'] piece).map fun parts => tagToken parts.1 :: charsToken parts.2

def lexPieces : List (List Char) → Option (List Token)
  | [] => some []
  | piece :: rest => do
    let tokens ← pieceTokens piece
    let more ← lexPieces rest
    some (tokens ++ more)

def lex (text : List Char) : Option (List Token) :=
  match text.splitOn '<' with
  | [] => none
  | first :: pieces => (lexPieces pieces).map fun tokens => charsToken first ++ tokens

/-- An element that is still open. -/
structure Frame where
  name : List Char
  attrs : List Char
  text : List Char
  children : List Element

/-- The element of a frame, once its end tag has come. -/
def Frame.close (frame : Frame) : Option Element :=
  if h : PlainName (.ofList frame.name) = true ∧ PlainAttrs (.ofList frame.attrs) = true then
    some (.elem ⟨.ofList frame.name, .ofList frame.attrs, h.1, h.2⟩
      (.ofList (unescape frame.text)) frame.children)
  else none

def Frame.add (frame : Frame) (nodes : List Element) : Frame :=
  { frame with children := frame.children ++ nodes }

def build : List Token → Frame → List Frame → Option Frame
  | [], frame, [] => some frame
  | [], _, _ :: _ => none
  | .chars text :: rest, frame, stack => build rest { frame with text := frame.text ++ text } stack
  | .start name attrs :: rest, frame, stack => build rest ⟨name, attrs, [], []⟩ (frame :: stack)
  | .stop _ :: _, _, [] => none
  | .stop name :: rest, frame, parent :: stack =>
    if name = frame.name then
      frame.close.bind fun node => build rest (parent.add [node]) stack
    else none

/-- The elements of a text. Character data stands inside elements only. -/
def read (text : List Char) : Option (List Element) := do
  let tokens ← lex text
  let top ← build tokens ⟨[], [], [], []⟩ []
  if top.text = [] then some top.children else none

/-- The tags of a text, one after the other. -/
def tagsOf (text : List Char) : Option (List Token) :=
  (lex text).map fun tokens => tokens.filter Token.isTag

end Reader

section RoundTrip

theorem Tag.name_not_mem (tag : Tag) :
    '<' ∉ tag.name.toList ∧ '>' ∉ tag.name.toList ∧ ' ' ∉ tag.name.toList ∧
      '/' ∉ tag.name.toList := by
  have h := List.all_eq_true.mp tag.plainName
  refine ⟨?_, ?_, ?_, ?_⟩ <;> intro hc <;> exact absurd (h _ hc) (by decide)

theorem Tag.attrs_not_mem (tag : Tag) : '<' ∉ tag.attrs.toList ∧ '>' ∉ tag.attrs.toList := by
  have h := List.all_eq_true.mp tag.plainAttrs
  refine ⟨?_, ?_⟩ <;> intro hc <;> exact absurd (h _ hc) (by decide)

theorem Tag.label_not_mem (tag : Tag) : '<' ∉ tag.label ∧ '>' ∉ tag.label := by
  unfold Tag.label
  split
  · exact ⟨tag.name_not_mem.1, tag.name_not_mem.2.1⟩
  · simp [tag.name_not_mem.1, tag.name_not_mem.2.1, tag.attrs_not_mem.1, tag.attrs_not_mem.2]

theorem tagToken_of_head {label : List Char} (h : label.head? ≠ some '/') :
    tagToken label =
      match splitOnce [' '] label with
      | none => .start label []
      | some (name, attrs) => .start name attrs := by
  unfold tagToken
  split
  · exact absurd rfl h
  · rfl

theorem tagToken_label (tag : Tag) :
    tagToken tag.label = .start tag.name.toList tag.attrs.toList := by
  obtain ⟨-, -, hspace, hslash⟩ := tag.name_not_mem
  have hhead : ∀ rest, (tag.name.toList ++ ' ' :: rest).head? ≠ some '/' := by
    intro rest
    cases hname : tag.name.toList with
    | nil => simp
    | cons c cs =>
      rw [hname, List.mem_cons, not_or] at hslash
      simpa using Ne.symm hslash.1
  have hhead_name : tag.name.toList.head? ≠ some '/' := fun h => hslash (List.mem_of_head? h)
  unfold Tag.label
  split
  · next hempty =>
    have hnil : tag.attrs.toList = [] := by
      rw [String.toList_eq_nil_iff]
      exact String.isEmpty_iff.mp hempty
    rw [tagToken_of_head hhead_name, splitOnce_of_not_mem hspace, hnil]
  · rw [tagToken_of_head (hhead _), splitOnce_append hspace]

mutual

def Element.pieces : Element → List (List Char)
  | .elem tag text children =>
    (tag.label ++ '>' :: escaped text.toList) ::
      (piecesAll children ++ ['/' :: (tag.name.toList ++ ['>'])])

def piecesAll : List Element → List (List Char)
  | [] => []
  | node :: rest => node.pieces ++ piecesAll rest

end

mutual

def Element.tokens : Element → List Token
  | .elem tag text children =>
    .start tag.name.toList tag.attrs.toList :: (charsToken (escaped text.toList) ++
      (tokensAll children ++ [.stop tag.name.toList]))

def tokensAll : List Element → List Token
  | [] => []
  | node :: rest => node.tokens ++ tokensAll rest

end

mutual

theorem Element.render_eq_pieces : ∀ node : Element, node.render = node.pieces.flatMap ('<' :: ·)
  | .elem tag text children => by
    rw [Element.render, Element.pieces, renderAll_eq_pieces children]
    simp [Tag.start, Tag.stop]

theorem renderAll_eq_pieces : ∀ nodes : List Element,
    renderAll nodes = (piecesAll nodes).flatMap ('<' :: ·)
  | [] => rfl
  | node :: rest => by
    rw [renderAll, piecesAll, Element.render_eq_pieces node, renderAll_eq_pieces rest,
      List.flatMap_append]

end

mutual

theorem Element.pieces_not_mem : ∀ node : Element, ∀ p ∈ node.pieces, '<' ∉ p
  | .elem tag text children => by
    intro p hp
    rw [Element.pieces, List.mem_cons, List.mem_append, List.mem_singleton] at hp
    rcases hp with rfl | hp | rfl
    · simp [tag.label_not_mem.1, (not_mem_escaped text.toList).1]
    · exact piecesAll_not_mem children p hp
    · simp [tag.name_not_mem.1]

theorem piecesAll_not_mem : ∀ nodes : List Element, ∀ p ∈ piecesAll nodes, '<' ∉ p
  | [] => fun _ hp => absurd hp List.not_mem_nil
  | node :: rest => by
    intro p hp
    rw [piecesAll, List.mem_append] at hp
    exact hp.elim (Element.pieces_not_mem node p) (piecesAll_not_mem rest p)

end

theorem intercalate_pieces (pieces : List (List Char)) :
    ['<'].intercalate ([] :: pieces) = pieces.flatMap ('<' :: ·) := by
  cases pieces with
  | nil => rfl
  | cons p rest =>
    induction rest generalizing p with
    | nil => simp [List.intercalate]
    | cons q rest ih =>
      have hrest := ih q
      simp only [List.flatMap_cons, List.intercalate, List.intersperse_cons_cons, List.flatten_cons,
        List.nil_append] at hrest ⊢
      rw [← hrest]
      simp

theorem splitOn_pieces {pieces : List (List Char)} (h : ∀ p ∈ pieces, '<' ∉ p) :
    (pieces.flatMap ('<' :: ·)).splitOn '<' = [] :: pieces := by
  rw [← intercalate_pieces, List.splitOn_intercalate '<' (by simpa using h) (by simp)]

theorem pieceTokens_append {label text : List Char} (h : '>' ∉ label) :
    pieceTokens (label ++ '>' :: text) = some (tagToken label :: charsToken text) := by
  rw [pieceTokens, splitOnce_append h, Option.map_some]

theorem lexPieces_cons {piece : List Char} {rest : List (List Char)} {ts more : List Token}
    (h : pieceTokens piece = some ts) (hrest : lexPieces rest = some more) :
    lexPieces (piece :: rest) = some (ts ++ more) := by
  rw [lexPieces, h, hrest]
  rfl

theorem lexPieces_append {ps qs : List (List Char)} {ts us : List Token}
    (hp : lexPieces ps = some ts) (hq : lexPieces qs = some us) :
    lexPieces (ps ++ qs) = some (ts ++ us) := by
  induction ps generalizing ts with
  | nil =>
    obtain rfl := Option.some.inj hp
    exact hq
  | cons p rest ih =>
    simp only [lexPieces, Option.bind_eq_bind, Option.bind_eq_some_iff, Option.some.injEq] at hp
    obtain ⟨first, hfirst, more, hmore, rfl⟩ := hp
    rw [List.cons_append, List.append_assoc]
    exact lexPieces_cons hfirst (ih hmore)

mutual

theorem Element.lex_pieces : ∀ node : Element, lexPieces node.pieces = some node.tokens
  | .elem tag text children => by
    have hstart : pieceTokens (tag.label ++ '>' :: escaped text.toList) =
        some (.start tag.name.toList tag.attrs.toList :: charsToken (escaped text.toList)) := by
      rw [pieceTokens_append tag.label_not_mem.2, tagToken_label]
    have hname : '>' ∉ '/' :: tag.name.toList := by simp [tag.name_not_mem.2.1]
    have hstop : lexPieces ['/' :: (tag.name.toList ++ ['>'])] = some [.stop tag.name.toList] :=
      lexPieces_cons (pieceTokens_append hname) rfl
    rw [Element.pieces, Element.tokens]
    exact lexPieces_cons hstart (lexPieces_append (lexAll_pieces children) hstop)

theorem lexAll_pieces : ∀ nodes : List Element,
    lexPieces (piecesAll nodes) = some (tokensAll nodes)
  | [] => rfl
  | node :: rest => lexPieces_append (Element.lex_pieces node) (lexAll_pieces rest)

end

theorem lex_renderAll (nodes : List Element) : lex (renderAll nodes) = some (tokensAll nodes) := by
  rw [renderAll_eq_pieces, lex, splitOn_pieces (piecesAll_not_mem nodes)]
  simp only [lexAll_pieces, Option.map_some]
  rfl

theorem Frame.close_elem (tag : Tag) (text : String) (children : List Element) :
    Frame.close ⟨tag.name.toList, tag.attrs.toList, escaped text.toList, children⟩ =
      some (.elem tag text children) := by
  simp only [Frame.close, String.ofList_toList, tag.plainName, tag.plainAttrs, and_self,
    dif_pos, unescape_escaped]

theorem build_charsToken (text : List Char) (rest : List Token) (frame : Frame)
    (stack : List Frame) :
    build (charsToken text ++ rest) frame stack =
      build rest { frame with text := frame.text ++ text } stack := by
  unfold charsToken
  split
  · next hnil => simp [hnil]
  · rfl

mutual

theorem Element.build_tokens : ∀ (node : Element) (rest : List Token) (frame : Frame)
    (stack : List Frame),
    build (node.tokens ++ rest) frame stack = build rest (frame.add [node]) stack
  | .elem tag text children, rest, frame, stack => by
    rw [Element.tokens, List.cons_append, build, List.append_assoc, build_charsToken,
      List.append_assoc, buildAll_tokens children, List.singleton_append, build]
    simp only [Frame.add, List.nil_append, if_true, Frame.close_elem, Option.bind_some]

theorem buildAll_tokens : ∀ (nodes : List Element) (rest : List Token) (frame : Frame)
    (stack : List Frame),
    build (tokensAll nodes ++ rest) frame stack = build rest (frame.add nodes) stack
  | [], rest, frame, stack => by simp [tokensAll, Frame.add]
  | node :: nodes, rest, frame, stack => by
    rw [tokensAll, List.append_assoc, Element.build_tokens node, buildAll_tokens nodes]
    simp [Frame.add]

end

/-- What is written from elements is read as these elements. -/
theorem read_renderAll (nodes : List Element) : read (renderAll nodes) = some nodes := by
  have hbuild := buildAll_tokens nodes [] ⟨[], [], [], []⟩ []
  rw [List.append_nil] at hbuild
  rw [read, lex_renderAll, Option.bind_eq_bind, Option.bind_some, hbuild]
  rfl

mutual

def Element.tags : Element → List Token
  | .elem tag _ children =>
    .start tag.name.toList tag.attrs.toList :: (tagsAll children ++ [.stop tag.name.toList])

def tagsAll : List Element → List Token
  | [] => []
  | node :: rest => node.tags ++ tagsAll rest

end

mutual

theorem Element.filter_tokens : ∀ node : Element, node.tokens.filter Token.isTag = node.tags
  | .elem tag text children => by
    have hchars : (charsToken (escaped text.toList)).filter Token.isTag = [] := by
      unfold charsToken
      split <;> rfl
    simp [Element.tokens, Element.tags, List.filter_cons, Token.isTag, hchars, filter_tokensAll children]

theorem filter_tokensAll : ∀ nodes : List Element,
    (tokensAll nodes).filter Token.isTag = tagsAll nodes
  | [] => rfl
  | node :: rest => by
    rw [tokensAll, tagsAll, List.filter_append, Element.filter_tokens node, filter_tokensAll rest]

end

theorem tagsOf_renderAll (nodes : List Element) : tagsOf (renderAll nodes) = some (tagsAll nodes) := by
  rw [tagsOf, lex_renderAll, Option.map_some, filter_tokensAll]

end RoundTrip

section Tags
variable {α β : Type}

theorem tagsAll_append (nodes more : List Element) :
    tagsAll (nodes ++ more) = tagsAll nodes ++ tagsAll more := by
  induction nodes with
  | nil => rfl
  | cons node rest ih => rw [List.cons_append, tagsAll, ih, tagsAll, List.append_assoc]

theorem tagsAll_flatMap_of {xs : List α} {ys : List β} {docs : α → List Element}
    {docs' : β → List Element}
    (h : List.Forall₂ (fun x y => tagsAll (docs x) = tagsAll (docs' y)) xs ys) :
    tagsAll (xs.flatMap docs) = tagsAll (ys.flatMap docs') := by
  induction h with
  | nil => rfl
  | cons hxy _ ih => rw [List.flatMap_cons, List.flatMap_cons, tagsAll_append, tagsAll_append, hxy, ih]

theorem tagsAll_of_forall₂ {nodes more : List Element}
    (h : List.Forall₂ (fun n m => n.tags = m.tags) nodes more) : tagsAll nodes = tagsAll more := by
  induction h with
  | nil => rfl
  | cons hnm _ ih => rw [tagsAll, tagsAll, hnm, ih]

theorem tagsAll_map_of {xs : List α} {ys : List β} {doc : α → Element} {doc' : β → Element}
    (h : List.Forall₂ (fun x y => (doc x).tags = (doc' y).tags) xs ys) :
    tagsAll (xs.map doc) = tagsAll (ys.map doc') := by
  refine tagsAll_of_forall₂ ?_
  rw [List.forall₂_map_left_iff, List.forall₂_map_right_iff]
  exact h

end Tags

section Paths
variable {α : Type} (step : String)

def Element.name : Element → String
  | .elem tag _ _ => tag.name

def Element.text : Element → String
  | .elem _ text _ => text

def Element.children : Element → List Element
  | .elem _ _ children => children

/-- The elements inside those with a name, as one step of a path. -/
def within (nodes : List Element) : List Element :=
  nodes.flatMap fun n => if n.name = step then n.children else []

/-- The texts of the elements with a name, as the end of a path. -/
def texts (nodes : List Element) : List String :=
  nodes.flatMap fun n => if n.name = step then [n.text] else []

/-- The texts at the end of a path. -/
def textsAt (path : List String) (last : String) (nodes : List Element) : List String :=
  texts last (path.foldl (fun nodes step => within step nodes) nodes)

theorem within_nil : within step [] = [] := rfl

theorem within_cons (n : Element) (rest : List Element) :
    within step (n :: rest) = (if n.name = step then n.children else []) ++ within step rest := rfl

theorem within_append (nodes more : List Element) :
    within step (nodes ++ more) = within step nodes ++ within step more :=
  List.flatMap_append

theorem within_flatMap (xs : List α) (docs : α → List Element) :
    within step (xs.flatMap docs) = xs.flatMap fun x => within step (docs x) :=
  List.flatMap_assoc

theorem within_map (xs : List α) (doc : α → Element) :
    within step (xs.map doc) =
      xs.flatMap fun x => if (doc x).name = step then (doc x).children else [] :=
  List.flatMap_map _ _ _

theorem texts_nil : texts step [] = [] := rfl

theorem texts_cons (n : Element) (rest : List Element) :
    texts step (n :: rest) = (if n.name = step then [n.text] else []) ++ texts step rest := rfl

theorem texts_append (nodes more : List Element) :
    texts step (nodes ++ more) = texts step nodes ++ texts step more :=
  List.flatMap_append

theorem texts_flatMap (xs : List α) (docs : α → List Element) :
    texts step (xs.flatMap docs) = xs.flatMap fun x => texts step (docs x) :=
  List.flatMap_assoc

theorem texts_map (xs : List α) (doc : α → Element) :
    texts step (xs.map doc) =
      xs.flatMap fun x => if (doc x).name = step then [(doc x).text] else [] :=
  List.flatMap_map _ _ _

end Paths
end ClixonSwitch.Lib.Xml
