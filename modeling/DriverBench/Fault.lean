import DriverBench.Device.Status
import DriverBench.Environment
import DriverBench.Files.Error
import DriverBench.Number.Constant
import DriverBench.Raster.Codec
import DriverBench.Token.Basic
/-!
# What can go wrong with a line

Every failure of a line has a cause, the fault, and perhaps a place in the line. A fault belongs to
a class, has a code and a wording; the three are given in one table each.
-/

namespace DriverBench

open Device Files Number Raster

/-- The classes of faults. -/
inductive FaultKind where
  /-- The line cannot be divided into tokens. -/
  | lex
  /-- The line makes no sense where it stands. -/
  | semantic
  | driver
  | library
  | io
  | codec
  | alloc
  deriving DecidableEq, Repr

/-- Why memory of the host was not had. -/
inductive ReserveError where
  /-- No such amount can be asked for. -/
  | overflow
  | exhausted
  deriving DecidableEq, Repr

/-- The wording of a failed reservation. -/
def ReserveError.message : ReserveError → String
  | .overflow =>
    "memory allocation failed because the computed capacity exceeded the collection's maximum"
  | .exhausted => "memory allocation failed because the memory allocator returned an error"

/-- The cause of a failure. -/
inductive Fault where
  -- dividing the line
  | openQuote
  | strayCharacter
  -- reading the line
  | textRequired
  | nameOrTextRequired
  | openParenRequired (keyword : String)
  | closeParenRequired
  | constantRequired (what : String)
  | commaOrCloseRequired
  | commaRequired
  | expressionMissing
  | unmatchedParen
  | nameOrConstructorRequired
  | fileNameRequired
  | kernelNameRequired
  | targetRequired
  | trailingInput
  | launchParenRequired
  | workSizeRequired
  | truthValueRequired
  | releaseNamesRequired
  | identifierRequired
  | bindObjectsRequired
  -- making sense of the line
  | constant (e : ConstantError)
  | undefinedName (name : String)
  | binding (e : BindingError)
  | noDriver
  | driverRequired (keyword : String)
  | lengthZero
  | dataRequired (keyword : String)
  | unknownChannelOrder
  | ambiguousChannelType (text : String)
  | unknownChannelType (text : String)
  | startBeyondData (start size : Nat)
  | widthZero
  | imageTooLarge (size available : Nat)
  | imageRequired
  | notCloneable
  | sourceRequired
  | binaryDataRequired
  | programRequired
  | ambiguousCommand (text : String) (candidates : List String)
  | unknownCommand (text : String)
  | ambiguousChoice (what text : String)
  | unknownChoice (what text : String) (candidates : List String)
  | untypedConstant (text : String)
  | tooManyDimensions
  | kernelRequired
  | argumentRequired
  | kernelNotSaved
  | localSizeMismatch
  | scriptTooDeep
  -- what lies outside the session
  | driver (e : DriverError)
  | library (e : LibraryError)
  | file (e : FileError)
  | output (why : String)
  | codec (e : CodecError)
  | reserve (e : ReserveError)
  /-- A fault that its finder describes. -/
  | described (kind : FaultKind) (code text : String)
  deriving DecidableEq, Repr

namespace Fault

/-- The class of a fault. -/
def kind : Fault → FaultKind
  | .openQuote | .strayCharacter => .lex
  | .driver _ => .driver
  | .library _ => .library
  | .file _ | .output _ => .io
  | .codec _ => .codec
  | .reserve _ => .alloc
  | .described kind _ _ => kind
  | _ => .semantic

/-- The code of a fault. -/
def code : Fault → String
  | .openQuote => "LEX001"
  | .strayCharacter => "LEX002"
  | .textRequired => "SYN001"
  | .nameOrTextRequired => "SYN002"
  | .openParenRequired _ => "SYN010"
  | .closeParenRequired => "SYN011"
  | .constantRequired _ => "SYN012"
  | .commaOrCloseRequired => "SYN013"
  | .commaRequired => "SYN014"
  | .expressionMissing => "SYN020"
  | .unmatchedParen => "SYN021"
  | .nameOrConstructorRequired => "SYN022"
  | .fileNameRequired => "SYN030"
  | .kernelNameRequired => "SYN031"
  | .targetRequired => "SYN040"
  | .trailingInput => "SYN041"
  | .launchParenRequired => "SYN050"
  | .workSizeRequired => "SYN051"
  | .truthValueRequired => "SYN052"
  | .releaseNamesRequired => "SYN053"
  | .identifierRequired => "SYN054"
  | .bindObjectsRequired => "SYN055"
  | .constant _ => "SEM001"
  | .undefinedName _ => "SEM002"
  | .binding _ => "SEM010"
  | .noDriver => "SEM020"
  | .driverRequired _ => "SEM021"
  | .lengthZero => "SEM031"
  | .dataRequired _ => "SEM032"
  | .unknownChannelOrder => "SEM033"
  | .ambiguousChannelType _ => "SEM034"
  | .unknownChannelType _ => "SEM035"
  | .startBeyondData .. => "SEM036"
  | .widthZero => "SEM037"
  | .imageTooLarge .. => "SEM038"
  | .imageRequired => "SEM039"
  | .notCloneable => "SEM040"
  | .sourceRequired => "SEM041"
  | .binaryDataRequired => "SEM042"
  | .programRequired => "SEM043"
  | .ambiguousCommand .. => "SEM050"
  | .unknownCommand _ => "SEM051"
  | .ambiguousChoice .. => "SEM052"
  | .unknownChoice .. => "SEM053"
  | .untypedConstant _ => "SEM060"
  | .tooManyDimensions => "SEM061"
  | .kernelRequired => "SEM062"
  | .argumentRequired => "SEM063"
  | .kernelNotSaved => "SEM064"
  | .localSizeMismatch => "SEM065"
  | .scriptTooDeep => "SEM070"
  | .driver e => e.code
  | .library _ => "LIB001"
  | .file _ => "IO001"
  | .output _ => "IO002"
  | .codec _ => "IMG001"
  | .reserve _ => "ALLOC001"
  | .described _ code _ => code

/-- Names as they are listed in a wording. -/
def listed (names : List String) : String :=
  String.intercalate ", " names

/-- The wording of a fault, without its code. -/
def text : Fault → String
  | .openQuote => "引用符が閉じられていません"
  | .strayCharacter => "解釈できない文字があります"
  | .textRequired => "引用符で囲んだテキストが必要です"
  | .nameOrTextRequired => "名前またはテキストが必要です"
  | .openParenRequired keyword => s!"'{keyword}' の後には '(' が必要です"
  | .closeParenRequired => "')' が必要です"
  | .constantRequired what => s!"{what} には数値定数が必要です"
  | .commaOrCloseRequired => "',' か ')' が必要です"
  | .commaRequired => "',' が必要です"
  | .expressionMissing => "式が必要ですが入力が終わりました"
  | .unmatchedParen => "対応する ')' がありません"
  | .nameOrConstructorRequired => "名前または構築子が必要です"
  | .fileNameRequired => "ファイル名が必要です"
  | .kernelNameRequired => "カーネル名が必要です"
  | .targetRequired => "代入先には識別子が必要です"
  | .trailingInput => "式の後に余分な入力があります"
  | .launchParenRequired => "カーネルの後には '(' が必要です"
  | .workSizeRequired => "'(' で始まる作業サイズが必要です"
  | .truthValueRequired => "真偽値が必要です"
  | .releaseNamesRequired => "解放する名前が必要です"
  | .identifierRequired => "識別子が必要です"
  | .bindObjectsRequired => "設定するオブジェクトが必要です"
  | .constant e => e.message
  | .undefinedName name => s!"'{name}' は未定義の名前です"
  | .binding e => e.message
  | .noDriver => "ドライバが読み込まれていません。'load' を実行してください"
  | .driverRequired keyword => s!"'{keyword}' 式にはドライバが必要です"
  | .lengthZero => "長さは 1 以上です"
  | .dataRequired keyword => s!"'{keyword}' の初期値にはデータオブジェクトが必要です"
  | .unknownChannelOrder =>
    let names := listed (ChannelOrder.all.map ChannelOrder.name)
    s!"チャネル並びは {names} のいずれかです"
  | .ambiguousChannelType text => s!"チャネル型 '{text}' は曖昧です"
  | .unknownChannelType text =>
    let names := listed ChannelType.names
    s!"チャネル型 '{text}' は不明です（{names} のいずれか）"
  | .startBeyondData start size => s!"開始位置 {start} がデータサイズ {size} を超えています"
  | .widthZero => "幅は 1 以上です"
  | .imageTooLarge size available =>
    s!"画像サイズ {size} バイトがデータサイズ {available} バイトを超えています"
  | .imageRequired => "形式を指定しない 'image' には画像データが必要です"
  | .notCloneable => "複製できるのはバッファ・画像・カーネルだけです"
  | .sourceRequired =>
    "プログラムのソースには引用テキストかデータオブジェクトが必要です"
  | .binaryDataRequired => "'binary' にはデータオブジェクトが必要です"
  | .programRequired => "'kernel' の第 1 引数にはプログラムが必要です"
  | .ambiguousCommand text candidates =>
    let names := listed candidates
    s!"コマンド '{text}' は曖昧です（候補: {names}）"
  | .unknownCommand text => s!"不明なコマンド '{text}' です。'help' で一覧を表示します"
  | .ambiguousChoice what text => s!"{what} '{text}' は曖昧です"
  | .unknownChoice what text candidates =>
    let names := listed candidates
    s!"{what} '{text}' は不明です（{names} のいずれか）"
  | .untypedConstant text => s!"定数の引数には型が必要です（例: ulong({text})）"
  | .tooManyDimensions => "作業サイズは 3 次元までです"
  | .kernelRequired => "カーネルが必要です"
  | .argumentRequired => "カーネル引数にはメモリかデータが必要です"
  | .kernelNotSaved => "カーネルは保存できません"
  | .localSizeMismatch => "ローカルサイズの次元数がグローバルサイズと一致しません"
  | .scriptTooDeep => "スクリプトの入れ子が深すぎます"
  | .driver e => e.message
  | .library e => e.message
  | .file e => e.message
  | .output why => s!"出力に失敗しました: {why}"
  | .codec e => e.message
  | .reserve e =>
    let why := e.message
    s!"メモリを確保できませんでした: {why}"
  | .described _ _ text => text

/-- A fault as it is shown: its code in brackets and its wording. -/
def message (f : Fault) : String :=
  "[" ++ f.code ++ "] " ++ f.text

end Fault

/-- A failure: its cause and, where it is known, the place in the line. -/
structure Failure where
  fault : Fault
  span : Option Span := none
  deriving DecidableEq, Repr

namespace Failure

/-- Gives a failure a place, unless it has one. -/
def atSpan (f : Failure) (span : Span) : Failure :=
  { f with span := f.span.or (some span) }

@[simp] theorem fault_atSpan (f : Failure) (span : Span) : (f.atSpan span).fault = f.fault := rfl

/-- The place that a failure got first stays. -/
theorem atSpan_atSpan (f : Failure) (a b : Span) : (f.atSpan a).atSpan b = f.atSpan a := by
  rcases f with ⟨_, _ | _⟩ <;> rfl

end Failure

/-- A failure of a fault at a place. -/
def Fault.atSpan (f : Fault) (span : Span) : Failure :=
  ⟨f, some span⟩

end DriverBench
