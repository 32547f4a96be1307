import CameraServer.Text.Blank
import CameraServer.Text.Split
import CameraServer.Text.Utf8

/-!
The version a build carries: one pinned by the packager, else the release tag that describes the
checkout, else the package version with the short commit behind it.
-/

set_option autoImplicit false

namespace CameraServer.Version

open CameraServer.Text

def package : String := "0.3.0"

structure CommandResult where
  output : Bytes
  success : Bool

def answer? (result : Option CommandResult) : Option String := do
  let result ← result
  guard result.success
  let text := trim (decodeReplacing result.output)
  guard (text ≠ "")
  return text

def ofTag (tag : String) : String :=
  match tag.toList with
  | 'v' :: rest => String.ofList rest
  | cs => String.ofList cs

def ofCheckout (described commit : Option CommandResult) : String :=
  match answer? described with
  | some tag => ofTag tag
  | none =>
      match answer? commit with
      | some hash => package ++ "+" ++ hash
      | none => package

def resolve (pinned : Option String) (described commit : Option CommandResult) : String :=
  match pinned with
  | some version => if trim version = "" then ofCheckout described commit else version
  | none => ofCheckout described commit

def buildLines (pinned : Option String) (described commit : Option CommandResult) : List String :=
  let version := "cargo::rustc-env=GIT_VERSION=" ++ resolve pinned described commit
  ["cargo::rerun-if-changed=.git/HEAD", "cargo::rerun-if-changed=.git/refs/tags",
    "cargo::rerun-if-env-changed=PITV_VERSION"]
    ++ (splitAt '\n' version.toList).map String.ofList

def banner (containerized : Bool) : String :=
  "pitv-server " ++ package ++ " (linux x86_64" ++ (if containerized then ", containerized" else "")
    ++ ")"

def containerMarks : List String :=
  ["/.dockerenv", "/run/.containerenv"]

def isContainerized (present : List String) : Bool :=
  containerMarks.any present.contains

end CameraServer.Version
