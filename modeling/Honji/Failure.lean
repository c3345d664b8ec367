import Honji.Datum

/-!
What can go wrong, by cause, and the wording of each cause.
-/

namespace Honji

inductive BaseRule where
  | contraction
  | nasal
  deriving DecidableEq

def BaseRule.title : BaseRule → Text
  | .contraction => "拗音白名單".toList
  | .nasal => "撥音".toList

inductive TableDefect where
  | suffixCount (kana : Text) (received : Nat)
  | missingBase (rule : BaseRule) (kana : Text)
  | emptyBase (rule : BaseRule) (kana : Text)
  | rowLength (consonant : Text) (received : Nat)
  | missingConsonant (consonant : Text)
  | missingAffricate (spelling : Text)
  deriving DecidableEq

def glideCount : Nat := 3

def vowelCount : Nat := 5

def TableDefect.message : TableDefect → Text
  | .suffixCount kana received =>
      "拗音白名單 ".toList ++ kana.quoted ++ " 需要 ".toList ++ Text.ofNat glideCount ++
        " 個後綴，收到 ".toList ++ Text.ofNat received
  | .missingBase rule kana => rule.title ++ ": 基礎音節表中沒有 ".toList ++ kana.quoted
  | .emptyBase rule kana =>
      rule.title ++ ": ".toList ++ kana.quoted ++ " 的基礎 token 為空".toList
  | .rowLength consonant received =>
      consonant.quoted ++ " 行需要 ".toList ++ Text.ofNat vowelCount ++ " 個假名，收到 ".toList ++
        Text.ofNat received
  | .missingConsonant consonant =>
      "促音: 沒有子音 ".toList ++ consonant.quoted ++ " 的基礎節點".toList
  | .missingAffricate spelling =>
      "促音: 缺少 ".toList ++ spelling.quoted ++ " 所需的節點".toList

inductive Failure where
  | duplicateKey (key : Symbol) (path : Path)
  | frozenNode (path : Path)
  | emptyPath
  | rootAsChild
  | secondParent (key : Symbol)
  | unknownOrder (given : Datum)
  | unsupportedMethod (given : Datum) (supported : List Text)
  | unusableTable (defect : TableDefect)
  | missingKey (key : Datum)
  | pastTheEnd
  | fieldlessFormat (format : Text)

def Path.shown (path : Path) : Text :=
  path.joined.orRoot.quoted

def Failure.duplicateMessage (key : Datum) (path : Path) : Text :=
  "Duplicate key ".toList ++ key.shown ++ " under node ".toList ++ path.shown

def Failure.message : Failure → Text
  | .duplicateKey key path => duplicateMessage (.text key) path
  | .frozenNode path => "Trie node ".toList ++ path.shown ++ " is frozen".toList
  | .emptyPath => "path 不可為空".toList
  | .rootAsChild => "root 節點不可被掛到其他節點之下".toList
  | .secondParent key => "節點 ".toList ++ key.quoted ++ " 已經有父節點，請先 duplicate()".toList
  | .unknownOrder given => "order 必須是 'pre' 或 'post'，收到 ".toList ++ given.shown
  | .unsupportedMethod given supported =>
      "Unsupported romanization method: ".toList ++ given.shown ++
        (if supported.isEmpty then []
        else " (supported: ".toList ++ Text.listed supported ++ [')'])
  | .unusableTable defect => defect.message
  | .missingKey key => key.shown
  | .pastTheEnd => "string index out of range".toList
  | .fieldlessFormat format => "Invalid format '".toList ++ format ++ "' for '%' style".toList

end Honji
