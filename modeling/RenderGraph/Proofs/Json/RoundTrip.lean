import RenderGraph.Json.Reader
import RenderGraph.Proofs.Json.Literals

/-!
# Documents that are read back

A value of texts, natural numbers, truth values, lists and objects is read back from
what is written of it, be it without blanks or over indented lines. Reading is followed
from state to state of the machine, with an arbitrary text behind the value.
-/

namespace RenderGraph.Json

/-- Values that are written in full: they have no other numbers than natural ones, and all their
strings are texts. -/
inductive Plain : Json → Prop
  /-- The value `null`. -/
  | null : Plain null
  /-- Truth values. -/
  | bool (value : Bool) : Plain (bool value)
  /-- Natural numbers. -/
  | natural (value : Nat) : Plain (natural value)
  /-- Texts. -/
  | text (value : String) : Plain (text value)
  /-- Lists of such values. -/
  | array {items : List Json} : (∀ item ∈ items, Plain item) → Plain (array items)
  /-- Objects with such values. -/
  | object {members : List (String × Json)} : (∀ member ∈ members, Plain member.2) →
    Plain (object members)

section Documents

/-- An object without members is written in full. -/
theorem Plain.empty : Plain (.object []) :=
  .object nofun

/-- So is an object with another member. -/
theorem Plain.cons {key : String} {value : Json} {members : List (String × Json)}
    (h : Plain value) (hm : Plain (.object members)) : Plain (.object ((key, value) :: members)) := by
  cases hm with
  | object hmembers => exact .object (List.forall_mem_cons.mpr ⟨h, hmembers⟩)

/-- So is the list of the documents of some things, if each of these is. -/
theorem Plain.map {α : Type} {f : α → Json} {list : List α} (h : ∀ a ∈ list, Plain (f a)) :
    Plain (.array (list.map f)) :=
  .array (List.forall_mem_map.mpr h)

end Documents

/-- From a state, some characters lead to another state, in as many rounds as there are characters
or more. -/
def Leads (state : Reading) (chars : List Char) (result : Reading) : Prop :=
  ∀ fuel, chars.length ≤ fuel →
    (tokensWithin fuel chars).bind (fun tokens => tokens.foldlM Reading.step state) = some result

/-- A state takes the first token of a value as what comes next below some open containers. -/
def Reading.Expects (state : Reading) (stack : List Frame) : Prop :=
  ∀ token, token ≠ .closeArray → state.step token = readValue stack token

/-- Wherever a value is expected, what is written of it leads to where it is complete. -/
def ReadsBack (value : Json) : Prop :=
  ∀ (depth : Option Nat) (state : Reading) (stack : List Frame) (rest : List Char)
    (result : Reading), state.Expects stack → Ends rest →
    Leads (.complete value stack) rest result → Leads state (value.render depth ++ rest) result

section Digits

variable {c : Char}

/-- A digit is no blank. -/
theorem isBlank_of_isDigit (h : c.isDigit = true) : isBlank c = false := by
  simp only [isBlank, Bool.or_eq_false_iff, decide_eq_false_iff_not]
  refine ⟨⟨⟨?_, ?_⟩, ?_⟩, ?_⟩ <;> rintro rfl <;> exact absurd h (by decide)

/-- What begins with a digit is a number. -/
theorem readToken_of_isDigit (h : c.isDigit = true) (rest : List Char) :
    readToken (c :: rest) = readNumber (c :: rest) := by
  unfold readToken
  split <;> first | rfl | exact absurd h (by simp_all)

end Digits

section Steps

variable {state next result : Reading} {rest : List Char}

/-- Where no characters are left, nothing happens. -/
theorem Leads.nil (state : Reading) : Leads state [] state := by
  intro fuel _
  cases fuel <;> rfl

/-- Blanks are passed over. -/
theorem Leads.blanks {blanks : List Char} (hb : ∀ c ∈ blanks, isBlank c = true)
    (h : Leads state rest result) : Leads state (blanks ++ rest) result := by
  induction blanks with
  | nil => exact h
  | cons c blanks ih =>
    intro fuel hfuel
    cases fuel with
    | zero => cases hfuel
    | succ fuel =>
      rw [List.cons_append, tokensWithin, if_pos (hb c List.mem_cons_self)]
      exact ih (fun d hd => hb d (List.mem_cons_of_mem c hd)) fuel (Nat.le_of_succ_le_succ hfuel)

/-- A token is taken by the machine, and what is behind it goes on from there. -/
theorem Leads.token {c : Char} {more : List Char} {token : Token} (hb : isBlank c = false)
    (ht : readToken (c :: (more ++ rest)) = some (token, rest)) (hs : state.step token = some next)
    (h : Leads next rest result) : Leads state (c :: (more ++ rest)) result := by
  intro fuel hfuel
  cases fuel with
  | zero => cases hfuel
  | succ fuel =>
    have hlength : rest.length ≤ fuel := by
      rw [List.length_cons, List.length_append] at hfuel
      omega
    have hrest := h fuel hlength
    rw [tokensWithin, hb, if_neg Bool.false_ne_true, ht]
    cases hmore : tokensWithin fuel rest with
    | none =>
      rw [hmore] at hrest
      cases hrest
    | some tokens =>
      rw [hmore] at hrest
      simpa [hs, hmore] using hrest

/-- A mark of one character is such a token. -/
theorem Leads.mark {c : Char} {token : Token} (hb : isBlank c = false)
    (ht : readToken (c :: rest) = some (token, rest)) (hs : state.step token = some next)
    (h : Leads next rest result) : Leads state (c :: rest) result :=
  show Leads state (c :: ([] ++ rest)) result from Leads.token hb ht hs h

/-- So is a string literal. -/
theorem Leads.literal {value : String} (hs : state.step (.string (some value)) = some next)
    (h : Leads next rest result) : Leads state (renderText value ++ rest) result := by
  have ht : readToken ('"' :: (value.toList.flatMap escapeChar ++ ['"'] ++ rest)) =
      some (.string (some value), rest) := by
    rw [List.append_assoc]
    exact readString_escaped value rest
  exact Leads.token rfl ht hs h

/-- So are the digits of a natural number if what follows them ends a value. -/
theorem Leads.digits {value : Nat} (hs : state.step (.natural value) = some next)
    (hrest : Ends rest) (h : Leads next rest result) :
    Leads state (Nat.toDigits 10 value ++ rest) result := by
  have hread := readNumber_toDigits value hrest
  obtain ⟨c, digits, hc⟩ :=
    List.exists_cons_of_ne_nil (Nat.toDigits_ne_nil (n := value) (b := 10))
  have hdigit : c.isDigit = true :=
    Nat.isDigit_of_mem_toDigits (by decide) (by decide) (hc ▸ List.mem_cons_self)
  rw [hc] at hread ⊢
  refine Leads.token (isBlank_of_isDigit hdigit) ?_ hs h
  rw [readToken_of_isDigit hdigit]
  exact hread

/-- A line break is made of blanks. -/
theorem Leads.lineBreak {depth : Option Nat} (h : Leads state rest result) :
    Leads state (lineBreak depth ++ rest) result := by
  refine h.blanks fun c hc => ?_
  cases depth with
  | none => cases hc
  | some depth =>
    rcases List.mem_cons.mp hc with rfl | hc
    · rfl
    · rw [List.eq_of_mem_replicate hc]
      rfl

/-- A key is followed by a colon. -/
theorem Leads.keySeparator {depth : Option Nat} (hs : state.step .colon = some next)
    (h : Leads next rest result) : Leads state (keySeparator depth ++ rest) result := by
  cases depth with
  | none => exact h.mark rfl rfl hs
  | some depth =>
    have hblank : Leads next ([' '] ++ rest) result := h.blanks (by simp [isBlank])
    exact hblank.mark rfl rfl hs

/-- A line break ends a value if what follows it does. -/
theorem Ends.lineBreak {depth : Option Nat} (h : Ends rest) : Ends (lineBreak depth ++ rest) := by
  cases depth with
  | none => exact h
  | some depth => exact ends_cons (by decide) _

end Steps

section Values

variable {state : Reading} {stack : List Frame} {depth : Option Nat} {rest : List Char}
  {result : Reading}

/-- A value is expected where one has to come. -/
theorem Reading.expects_value (stack : List Frame) : (Reading.value stack).Expects stack :=
  fun _ _ => rfl

/-- A value is also expected behind the bracket in front of a list. -/
theorem Reading.expects_firstItem (stack : List Frame) :
    (Reading.firstItem stack).Expects (.array [] :: stack) := by
  intro token hne
  cases token <;> first | rfl | exact absurd rfl hne

/-- Items that are read back are read one behind the other. -/
theorem Leads.items {items done : List Json} (hread : ∀ item ∈ items, ReadsBack item)
    (hne : items ≠ []) (he : state.Expects (.array done :: stack)) (hrest : Ends rest)
    (h : Leads (.afterItem stack (done ++ items)) rest result) :
    Leads state (renderItems depth items ++ rest) result := by
  induction items generalizing state done with
  | nil => exact absurd rfl hne
  | cons item more ih =>
    have hitem := fun rest =>
      hread item List.mem_cons_self depth state (.array done :: stack) rest result he
    cases more with
    | nil =>
      rw [renderItems, List.append_assoc]
      exact (hitem _ hrest h).lineBreak
    | cons next more =>
      have hmore : ∀ x ∈ next :: more, ReadsBack x :=
        fun x hx => hread x (List.mem_cons_of_mem item hx)
      rw [List.append_cons] at h
      -- The comma behind the item leads to where the next one is expected.
      have hnext := ih hmore nofun (Reading.expects_value _) h
      rw [renderItems, List.append_assoc, List.append_assoc, List.cons_append]
      · exact (hitem _ (ends_cons (by decide) _) (Leads.mark rfl rfl rfl hnext)).lineBreak
      · nofun

/-- The members of an object, as the machine keeps them. -/
def keyed (members : List (String × Json)) : List (Option String × Json) :=
  members.map fun (key, value) => (some key, value)

/-- Members with values that are read back are read one behind the other. -/
theorem Leads.members {members done : List (String × Json)}
    (hread : ∀ member ∈ members, ReadsBack member.2) (hne : members ≠ [])
    (hs : ∀ name, state.step (.string name) = some (.colon stack (keyed done) name))
    (hrest : Ends rest)
    (h : Leads (.afterMember stack (keyed (done ++ members))) rest result) :
    Leads state (renderMembers depth members ++ rest) result := by
  induction members generalizing state done with
  | nil => exact absurd rfl hne
  | cons member more ih =>
    obtain ⟨key, value⟩ := member
    have hvalue := fun rest => hread (key, value) List.mem_cons_self depth _ _ rest result
      (Reading.expects_value (.object (keyed done) (some key) :: stack))
    have hdone : keyed (done ++ [(key, value)]) = keyed done ++ [(some key, value)] := by
      rw [keyed, List.map_append]
      rfl
    cases more with
    | nil =>
      rw [hdone] at h
      simp only [renderMembers, List.append_assoc]
      exact ((Leads.keySeparator rfl (hvalue _ hrest h)).literal (hs _)).lineBreak
    | cons next more =>
      have hmore : ∀ x ∈ next :: more, ReadsBack x.2 :=
        fun x hx => hread x (List.mem_cons_of_mem _ hx)
      rw [List.append_cons] at h
      -- The comma behind the value leads to where the next key is expected.
      have hnext : Leads (.key stack (keyed (done ++ [(key, value)])))
          (renderMembers depth (next :: more) ++ rest) result :=
        ih hmore nofun (fun name => rfl) h
      rw [hdone] at hnext
      rw [renderMembers]
      · simp only [List.append_assoc, List.cons_append]
        have hcomma := hvalue (',' :: (renderMembers depth (next :: more) ++ rest))
          (ends_cons (by decide) _) (Leads.mark rfl rfl rfl hnext)
        exact ((Leads.keySeparator rfl hcomma).literal (hs _)).lineBreak
      · nofun

/-- What the machine keeps of an object is the object. -/
theorem ofMembers_keyed (members : List (String × Json)) :
    ofMembers (keyed members) = object members := by
  have hmapM : (keyed members).mapM (fun entry => entry.1.map fun text => (text, entry.2)) =
      some members := by
    induction members with
    | nil => rfl
    | cons member members ih =>
      rw [keyed] at ih ⊢
      simp [ih]
  unfold ofMembers
  split
  case h_1 found he => exact congrArg object (Option.some.inj (he.symm.trans hmapM))
  case h_2 he => exact absurd (hmapM.symm.trans he) (Option.some_ne_none members)

/-- Lists of values that are read back are read back. -/
theorem ReadsBack.array {items : List Json} (h : ∀ item ∈ items, ReadsBack item) :
    ReadsBack (array items) := by
  intro depth state stack rest result he hrest hgo
  have hopen : state.step .openArray = some (.firstItem stack) := he .openArray nofun
  cases items with
  | nil => exact Leads.mark rfl rfl hopen (Leads.mark rfl rfl rfl hgo)
  | cons item more =>
    rw [render]
    · simp only [List.append_assoc, List.cons_append, List.nil_append]
      refine Leads.mark rfl rfl hopen (Leads.items h nofun (Reading.expects_firstItem stack) ?_ ?_)
      · exact Ends.lineBreak (ends_cons (by decide) _)
      · exact (Leads.mark rfl rfl rfl hgo).lineBreak
    · nofun

/-- Objects with values that are read back are read back. -/
theorem ReadsBack.object {members : List (String × Json)}
    (h : ∀ member ∈ members, ReadsBack member.2) : ReadsBack (object members) := by
  intro depth state stack rest result he hrest hgo
  have hopen : state.step .openObject = some (.firstKey stack) := he .openObject nofun
  cases members with
  | nil => exact Leads.mark rfl rfl hopen (Leads.mark rfl rfl rfl hgo)
  | cons member more =>
    rw [render]
    · simp only [List.append_assoc, List.cons_append, List.nil_append]
      have hfirst : ∀ name, (Reading.firstKey stack).step (.string name) =
          some (.colon stack (keyed []) name) := fun _ => rfl
      refine Leads.mark rfl rfl hopen (Leads.members h nofun hfirst ?_ ?_)
      · exact Ends.lineBreak (ends_cons (by decide) _)
      · refine (Leads.mark rfl rfl ?_ hgo).lineBreak
        rw [List.nil_append, Reading.step, ofMembers_keyed]
    · nofun

/-- Every plain value is read back. -/
theorem Plain.readsBack {value : Json} (h : value.Plain) : ReadsBack value := by
  induction h with
  | null => exact fun _ _ _ _ _ he _ h => Leads.token rfl rfl (he .null nofun) h
  | bool value =>
    intro _ _ _ _ _ he _ h
    cases value with
    | false => exact Leads.token rfl rfl (he (.bool false) nofun) h
    | true => exact Leads.token rfl rfl (he (.bool true) nofun) h
  | natural value =>
    exact fun _ _ _ _ _ he hrest h => Leads.digits (he (.natural value) nofun) hrest h
  | text value => exact fun _ _ _ _ _ he _ h => Leads.literal (he (.string (some value)) nofun) h
  | array _ ih => exact ReadsBack.array ih
  | object _ ih => exact ReadsBack.object ih

/-- A plain value is read back from its text, with or without blanks. -/
theorem Plain.ofText?_render {value : Json} (h : value.Plain) (depth : Option Nat) :
    ofText? (String.ofList (value.render depth)) = some value := by
  have hleads : Leads (.value []) (value.render depth ++ []) (.finished value) :=
    h.readsBack depth _ _ _ _ (Reading.expects_value []) nofun (.nil _)
  rw [List.append_nil] at hleads
  have hrun := hleads _ (Nat.le_refl _)
  rw [ofText?, String.toList_ofList, tokens]
  obtain ⟨tokens, ht, hf⟩ := Option.bind_eq_some_iff.mp hrun
  rw [ht]
  simp [ofTokens?, hf]

end Values

end RenderGraph.Json
