import DataOutline.Expression.Parser

/-!
# The grammar of expressions

The language of expressions in levels, each of which is made of phrases of its own level and of the
next tighter one. The operators of a level group to the left, since a left operand may be of the
level itself and a right operand may not; the conditional groups to the right. Nothing is said here
about how a phrase is found.

The reader knows no levels, only powers. The second part says which power stands for which level:
every operator has the power of its level, and reading with a power is reading a phrase of the
loosest level that is not weaker.
-/

namespace DataOutline.Expression

/-! ## Levels and names -/

/-- The levels of the grammar, from the loosest to the tightest. -/
inductive Level where
  | conditional | either | both | equality | comparison | sum | product | sign | suffix | primary
deriving DecidableEq, Repr

def Level.tighter : Level → Level
  | .conditional => .either
  | .either => .both
  | .both => .equality
  | .equality => .comparison
  | .comparison => .sum
  | .sum => .product
  | .product => .sign
  | .sign => .suffix
  | .suffix | .primary => .primary

def Level.operator? : Level → Token → Option BinaryOperator
  | .either, .either => some .or
  | .both, .both => some .and
  | .equality, .equal => some .equal
  | .equality, .unequal => some .unequal
  | .equality, .strictEqual => some .strictEqual
  | .equality, .strictUnequal => some .strictUnequal
  | .comparison, .less => some .less
  | .comparison, .greater => some .greater
  | .comparison, .lessEqual => some .lessEqual
  | .comparison, .greaterEqual => some .greaterEqual
  | .sum, .plus => some .add
  | .sum, .minus => some .subtract
  | .product, .star => some .multiply
  | .product, .slash => some .divide
  | .product, .percent => some .modulo
  | _, _ => none

/-- The tokens that are an expression on their own. -/
def literal? : Token → Option Expression
  | .number x => some (.number x)
  | .string s => some (.string s)
  | .trueWord => some (.boolean true)
  | .falseWord => some (.boolean false)
  | .nullWord => some .null
  | .identifier name => some (.identifier name)
  | _ => none

/-- The tokens that name a property behind a point. Keywords are names there. -/
inductive NamesProperty : Token → String → Prop
  | identifier (name : String) : NamesProperty (.identifier name) name
  | trueWord : NamesProperty .trueWord "true"
  | falseWord : NamesProperty .falseWord "false"
  | nullWord : NamesProperty .nullWord "null"

/-- The tokens that name an entry. A number is named by its text. -/
inductive NamesEntry : Token → String → Prop
  | identifier (name : String) : NamesEntry (.identifier name) name
  | string (s : String) : NamesEntry (.string s) s
  | number (x : Float) : NamesEntry (.number x) (Value.numberText x)

theorem propertyName?_eq_some_iff {token : Token} {name : String} :
    propertyName? token = some name ↔ NamesProperty token name := by
  constructor
  · intro h
    cases token with
    | identifier _ | trueWord | falseWord | nullWord => cases h; constructor
    | _ => exact nomatch h
  · rintro (_ | _ | _ | _) <;> rfl

theorem entryName?_eq_some_iff {token : Token} {name : String} :
    entryName? token = some name ↔ NamesEntry token name := by
  constructor
  · intro h
    cases token with
    | identifier _ | string _ | number _ => cases h; constructor
    | _ => exact nomatch h
  · rintro (_ | _ | _) <;> rfl

/-! ## Derivations -/

/-- What a list of tokens may be. -/
inductive Phrase where
  | expression (level : Level) (e : Expression)
  | items (es : List Expression)
  | entry (name : String) (value : Expression)
  | entries (es : List (String × Expression))

/-- `Derives phrase tokens`: the grammar derives these tokens as this phrase. -/
inductive Derives : Phrase → List Token → Prop
  /-- A phrase of a tighter level. -/
  | lift {level : Level} {e : Expression} {ts : List Token}
      (inner : Derives (.expression level.tighter e) ts) : Derives (.expression level e) ts
  | conditional {condition whenTrue whenFalse : Expression} {cs ts fs : List Token}
      (first : Derives (.expression .either condition) cs)
      (second : Derives (.expression .conditional whenTrue) ts)
      (third : Derives (.expression .conditional whenFalse) fs) :
      Derives (.expression .conditional (.conditional condition whenTrue whenFalse))
        (cs ++ .question :: (ts ++ .colon :: fs))
  | binary {level : Level} {token : Token} {operator : BinaryOperator} {left right : Expression}
      {ls rs : List Token} (own : level.operator? token = some operator)
      (first : Derives (.expression level left) ls)
      (second : Derives (.expression level.tighter right) rs) :
      Derives (.expression level (.binary operator left right)) (ls ++ token :: rs)
  | negate {operand : Expression} {ts : List Token}
      (inner : Derives (.expression .sign operand) ts) :
      Derives (.expression .sign (.unary .negate operand)) (.minus :: ts)
  | not {operand : Expression} {ts : List Token}
      (inner : Derives (.expression .sign operand) ts) :
      Derives (.expression .sign (.unary .not operand)) (.bang :: ts)
  /-- The plus sign leaves no trace. -/
  | plus {operand : Expression} {ts : List Token}
      (inner : Derives (.expression .sign operand) ts) :
      Derives (.expression .sign operand) (.plus :: ts)
  | member {target : Expression} {ts : List Token} {token : Token} {name : String}
      (first : Derives (.expression .suffix target) ts) (names : NamesProperty token name) :
      Derives (.expression .suffix (.member target name)) (ts ++ [.dot, token])
  | index {target place : Expression} {ts ps : List Token}
      (first : Derives (.expression .suffix target) ts)
      (second : Derives (.expression .conditional place) ps) :
      Derives (.expression .suffix (.index target place))
        (ts ++ .openBracket :: (ps ++ [.closeBracket]))
  | call {callee : Expression} {arguments : List Expression} {ts as : List Token}
      (first : Derives (.expression .suffix callee) ts) (second : Derives (.items arguments) as) :
      Derives (.expression .suffix (.call callee arguments))
        (ts ++ .openParen :: (as ++ [.closeParen]))
  | literal {token : Token} {e : Expression} (is : literal? token = some e) :
      Derives (.expression .primary e) [token]
  /-- Parentheses leave no trace. -/
  | group {e : Expression} {ts : List Token} (inner : Derives (.expression .conditional e) ts) :
      Derives (.expression .primary e) (.openParen :: (ts ++ [.closeParen]))
  | array {es : List Expression} {ts : List Token} (inner : Derives (.items es) ts) :
      Derives (.expression .primary (.array es)) (.openBracket :: (ts ++ [.closeBracket]))
  | object {es : List (String × Expression)} {ts : List Token} (inner : Derives (.entries es) ts) :
      Derives (.expression .primary (.object es)) (.openBrace :: (ts ++ [.closeBrace]))
  | noItem : Derives (.items []) []
  | lastItem {e : Expression} {ts : List Token} (inner : Derives (.expression .conditional e) ts) :
      Derives (.items [e]) ts
  /-- No item has to stand behind a comma. -/
  | consItem {e : Expression} {es : List Expression} {ts us : List Token}
      (first : Derives (.expression .conditional e) ts) (second : Derives (.items es) us) :
      Derives (.items (e :: es)) (ts ++ .comma :: us)
  | pair {token : Token} {name : String} {value : Expression} {ts : List Token}
      (names : NamesEntry token name) (inner : Derives (.expression .conditional value) ts) :
      Derives (.entry name value) (token :: .colon :: ts)
  /-- A name alone stands for the variable of that name. -/
  | short {token : Token} {name : String} (names : NamesEntry token name) :
      Derives (.entry name (.identifier name)) [token]
  | noEntry : Derives (.entries []) []
  | lastEntry {name : String} {value : Expression} {ts : List Token}
      (inner : Derives (.entry name value) ts) : Derives (.entries [(name, value)]) ts
  | consEntry {name : String} {value : Expression} {es : List (String × Expression)}
      {ts us : List Token} (first : Derives (.entry name value) ts)
      (second : Derives (.entries es) us) :
      Derives (.entries ((name, value) :: es)) (ts ++ .comma :: us)

/-! ## Levels and powers -/

/-- The power of a level. No operator has one of the last three. -/
def Level.power : Level → Nat
  | .conditional => conditionalPower
  | .either => 4
  | .both => 6
  | .equality => 8
  | .comparison => 10
  | .sum => 12
  | .product => 14
  | .sign => operandPower
  | .suffix => 17
  | .primary => 18

/-- The level of what is read with a power. -/
def levelOf (power : Nat) : Level :=
  if power ≤ 2 then .conditional
  else if power ≤ 4 then .either
  else if power ≤ 6 then .both
  else if power ≤ 8 then .equality
  else if power ≤ 10 then .comparison
  else if power ≤ 12 then .sum
  else if power ≤ 14 then .product
  else .sign

theorem infix?_eq_some_iff {token : Token} {operator : BinaryOperator} {own : Nat} :
    infix? token = some (operator, own) ↔
      ∃ level : Level, level.operator? token = some operator ∧ level.power = own := by
  constructor
  · intro h
    cases token with
    | either => cases h; exact ⟨.either, rfl, rfl⟩
    | both => cases h; exact ⟨.both, rfl, rfl⟩
    | equal | unequal | strictEqual | strictUnequal => cases h; exact ⟨.equality, rfl, rfl⟩
    | less | greater | lessEqual | greaterEqual => cases h; exact ⟨.comparison, rfl, rfl⟩
    | plus | minus => cases h; exact ⟨.sum, rfl, rfl⟩
    | star | slash | percent => cases h; exact ⟨.product, rfl, rfl⟩
    | _ => exact nomatch h
  · rintro ⟨level, h, rfl⟩
    unfold Level.operator? at h
    split at h
    all_goals cases h <;> rfl

theorem levelOf_succ_power {level : Level} {token : Token} {operator : BinaryOperator}
    (h : level.operator? token = some operator) : levelOf (level.power + 1) = level.tighter := by
  unfold Level.operator? at h
  split at h
  all_goals cases h <;> rfl

theorem power_levelOf_le {power : Nat} {level : Level} (h : power ≤ level.power) :
    (levelOf power).power ≤ level.power := by
  unfold levelOf
  cases level <;> simp only [Level.power, conditionalPower, operandPower] at h <;>
    repeat' split
  all_goals simp only [Level.power, conditionalPower, operandPower]; omega

theorem power_levelOf_le_sign (power : Nat) : (levelOf power).power ≤ Level.sign.power := by
  unfold levelOf
  repeat' split
  all_goals decide

theorem Derives.loosen {level level' : Level} {e : Expression} {ts : List Token}
    (hle : level.power ≤ level'.power) (h : Derives (.expression level' e) ts) :
    Derives (.expression level e) ts := by
  -- One level at a time: with each the phrase is lifted once.
  have hnext : ∀ l l' : Level, l.power ≤ l'.power → l ≠ l' →
      l.power < l.tighter.power ∧ l.tighter.power ≤ l'.power := by
    intro l l'
    cases l <;> cases l' <;> decide
  by_cases heq : level = level'
  · exact heq ▸ h
  · obtain ⟨hlt, hle⟩ := hnext level level' hle heq
    exact .lift (Derives.loosen hle h)
termination_by level'.power - level.power

/-- The power with which a token goes on behind an expression, if it can. -/
def power? (token : Token) : Option Nat :=
  if token = .question then some conditionalPower else (infix? token).map Prod.snd

theorem power?_of_ne_question {token : Token} (h : token ≠ .question) :
    power? token = (infix? token).map Prod.snd := if_neg h

/-- Whether no operator that binds at least as strongly as a power comes next. -/
def Ends (power : Nat) (rest : List Token) : Prop :=
  ∀ token ∈ rest.head?, ∀ own ∈ power? token, own < power

theorem ends_nil (power : Nat) : Ends power [] := fun _ h ↦ nomatch h

theorem ends_cons {power : Nat} {token : Token} {rest : List Token} :
    Ends power (token :: rest) ↔ ∀ own ∈ power? token, own < power :=
  ⟨fun h ↦ h token rfl, fun h _ ht ↦ Option.some.inj ht ▸ h⟩

theorem Ends.mono {power power' : Nat} {rest : List Token} (hle : power ≤ power')
    (h : Ends power rest) : Ends power' rest :=
  fun token ht own ho ↦ Nat.lt_of_lt_of_le (h token ht own ho) hle

namespace Level

/-- The power that an operator has to fall short of behind a phrase of a level to be no part of
it. The conditional takes in every operator behind its last part. -/
def bound : Level → Nat
  | .conditional => conditionalPower
  | level => level.power + 1

theorem bound_le (level : Level) : level.bound ≤ level.power + 1 := by
  cases level <;> decide

theorem power_le_bound (level : Level) : level.power ≤ level.bound := by
  cases level <;> decide

theorem bound_tighter_le (level : Level) : level.bound ≤ level.tighter.bound := by
  cases level <;> decide

theorem bound_of_operator? {level : Level} {token : Token} {operator : BinaryOperator}
    (h : level.operator? token = some operator) : level.bound = level.power + 1 := by
  cases level with
  | conditional => exact nomatch h
  | _ => rfl

theorem power_lt_tighter {level : Level} {token : Token} {operator : BinaryOperator}
    (h : level.operator? token = some operator) : level.power < level.tighter.power := by
  cases level with
  | suffix | primary => exact nomatch h
  | _ => decide

theorem power_either_le {level : Level} (h : conditionalPower < level.bound) :
    Level.either.power ≤ level.power := by
  cases level with
  | conditional => exact absurd h (Nat.lt_irrefl _)
  | _ => decide

end Level

theorem ends_operandPower (rest : List Token) : Ends operandPower rest := by
  rcases rest with _ | ⟨token, rest⟩
  · exact ends_nil _
  · rw [ends_cons]
    intro own hown
    by_cases hq : token = .question
    · subst hq
      cases hown
      decide
    · rw [power?_of_ne_question hq] at hown
      obtain ⟨⟨operator, own⟩, hfound, rfl⟩ := Option.map_eq_some_iff.mp hown
      obtain ⟨level, hlevel, rfl⟩ := infix?_eq_some_iff.mp hfound
      change level.power < operandPower
      cases level with
      | conditional | sign | suffix | primary => exact nomatch hlevel
      | _ => decide

end DataOutline.Expression
