/-
# Languages

The languages a story can be told in, each with its two-letter code.
-/

namespace Parley

/-- A language in which text can be shown. -/
inductive Language where
  | english
  | german
  | french
  | spanish
  | italian
  | portuguese
  | polish
  | russian
  | japanese
  | korean
  | chinese
deriving DecidableEq, Repr

namespace Language

/-- English is spoken when nothing else was chosen. -/
instance : Inhabited Language := ⟨english⟩

/-- The two-letter code under which placeholders name the language. -/
def code : Language → String
  | english => "en"
  | german => "de"
  | french => "fr"
  | spanish => "es"
  | italian => "it"
  | portuguese => "pt"
  | polish => "pl"
  | russian => "ru"
  | japanese => "ja"
  | korean => "ko"
  | chinese => "zh"

instance : ToString Language := ⟨code⟩

end Language

end Parley
