/-!
# Failures of files
-/

namespace DriverBench.Files

/-- Why a file was not read or written, apart from its being missing. -/
inductive Reason where
  | notDirectory
  | isDirectory
  | nameTooLong
  | notText
  | nulInName
  deriving DecidableEq, Repr

/-- The wording of a reason. -/
def Reason.message : Reason → String
  | .notDirectory => "Not a directory (os error 20)"
  | .isDirectory => "Is a directory (os error 21)"
  | .nameTooLong => "File name too long (os error 36)"
  | .notText => "stream did not contain valid UTF-8"
  | .nulInName => "file name contained an unexpected NUL byte"

/-- The failure of an operation on a file. -/
inductive FileError where
  | notFound (path : String)
  | empty (path : String)
  | offsetBeyondEnd (offset size : Nat)
  | failed (path : String) (reason : Reason)
  deriving DecidableEq, Repr

/-- The wording of a file's failure. -/
def FileError.message : FileError → String
  | .notFound path => s!"ファイル '{path}' が見つかりません"
  | .empty path => s!"ファイル '{path}' は空です"
  | .offsetBeyondEnd offset size =>
    s!"開始位置 {offset} がファイルサイズ {size} を超えています"
  | .failed path reason =>
    let why := reason.message
    s!"ファイル '{path}' の入出力に失敗しました: {why}"

end DriverBench.Files
