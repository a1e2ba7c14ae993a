import ScriptSurvey.Rules.Rule

/-!
# Built-in rule sets

The sets that every project starts with. A stored set of the same name takes the place of one.
-/
namespace ScriptSurvey.RuleSet

def javascript : RuleSet where
  name := "javascript"
  description := "Language-level patterns worth replacing in any JavaScript or TypeScript project"
  alwaysApply := true
  detection := .empty
  rules := [
    { Rule.ofPattern "no-var" "\\bvar\\s+[A-Za-z_$][\\w$]*" with
      kind := .regex
      message := some "`var` is function-scoped; prefer block-scoped declarations"
      replacement := some "let"
      files := some "**/*.\x7bjs,jsx,ts,tsx,mjs,cjs,mts,cts\x7d" },
    { Rule.ofPattern "no-debugger" "\\bdebugger\\s*;?" with
      kind := .regex
      severity := .error
      message := some "Leftover `debugger` statement" },
    { Rule.ofPattern "loose-equality" "[^=!<>]==[^=]" with
      kind := .regex
      severity := .info
      message := some "Loose equality coerces operands"
      replacement := some "==="
      files := some "**/*.\x7bjs,jsx,ts,tsx,mjs,cjs,mts,cts\x7d" },
    { Rule.ofPattern "substr" ".substr(" with
      severity := .info
      message := some "String.prototype.substr is deprecated"
      replacement := some ".slice(" }]
  extra := []

def lodash : RuleSet where
  name := "lodash"
  description := "Lodash helpers with native equivalents"
  alwaysApply := false
  detection := ⟨["lodash", "lodash-es", "underscore"], ["lodash", "lodash-es", "underscore"], []⟩
  rules := [
    { Rule.ofPattern "is-array" "_.isArray(" with
      severity := .info
      replacement := some "Array.isArray(" },
    { Rule.ofPattern "assign" "_.assign(" with
      severity := .info
      replacement := some "Object.assign(" },
    { Rule.ofPattern "for-each" "_.forEach(" with
      severity := .info
      message := some "Native iteration avoids the dependency"
      replacement := some "array.forEach(" },
    { Rule.ofPattern "includes" "_.includes(" with
      severity := .info
      replacement := some "array.includes(" }]
  extra := []

def node : RuleSet where
  name := "node"
  description := "Deprecated Node.js core APIs"
  alwaysApply := false
  detection :=
    ⟨[], ["fs", "node:fs", "path", "node:path", "crypto", "node:crypto"],
      ["process.env"]⟩
  rules := [
    { Rule.ofPattern "new-buffer" "\\bnew\\s+Buffer\\(" with
      kind := .regex
      severity := .error
      message := some "The Buffer constructor is deprecated and unsafe"
      replacement := some "Buffer.from(" },
    { Rule.ofPattern "fs-exists" "fs.exists(" with
      message := some "fs.exists is deprecated"
      replacement := some "fs.existsSync(" },
    { Rule.ofPattern "url-parse" "url.parse(" with
      message := some "Legacy URL API"
      replacement := some "new URL(" },
    { Rule.ofPattern "create-cipher" "\\bcrypto\\.createCipher\\(" with
      kind := .regex
      severity := .error
      message := some "createCipher derives keys insecurely"
      replacement := some "crypto.createCipheriv(" }]
  extra := []

def react : RuleSet where
  name := "react"
  description := "Legacy React APIs removed or deprecated in current releases"
  alwaysApply := false
  detection := ⟨["react", "react-dom"], ["react"], []⟩
  rules := [
    { Rule.ofPattern "component-will-mount" "\\bcomponentWillMount\\s*\\(" with
      kind := .regex
      severity := .error
      message := some "componentWillMount was removed in React 17"
      replacement := some "componentDidMount(" },
    { Rule.ofPattern "component-will-receive-props" "\\bcomponentWillReceiveProps\\s*\\(" with
      kind := .regex
      severity := .error
      message := some "componentWillReceiveProps was removed in React 17"
      replacement := some "static getDerivedStateFromProps(" },
    { Rule.ofPattern "react-dom-render" "ReactDOM.render(" with
      message := some "ReactDOM.render is replaced by the root API"
      replacement := some "createRoot(container).render(" },
    { Rule.ofPattern "find-dom-node" "findDOMNode(" with
      message := some "findDOMNode is deprecated; use refs" },
    { Rule.ofPattern "dangerously-set-inner-html" "dangerouslySetInnerHTML" with
      severity := .info
      message := some "Raw HTML injection"
      files := some "**/*.\x7bjsx,tsx,js\x7d" }]
  extra := []

def vue : RuleSet where
  name := "vue"
  description := "Vue 2 idioms that break or are discouraged in Vue 3"
  alwaysApply := false
  detection := ⟨["vue", "nuxt"], ["vue"], ["<template"]⟩
  rules := [
    { Rule.ofPattern "v-html" "v-html=" with
      message := some "v-html renders raw HTML"
      files := some "**/*.vue"
      context := some "template" },
    { Rule.ofPattern "filters-pipe" "\\\x7b\\\x7b[^\x7d]*[^|]\\|[^|][^\x7d]*\\\x7d\\\x7d" with
      kind := .regex
      severity := .error
      message := some "Template filters were removed in Vue 3; use a method or computed property"
      files := some "**/*.vue"
      context := some "template" },
    { Rule.ofPattern "vue-set" "\\b(Vue\\.set|this\\.\\$set)\\(" with
      kind := .regex
      message := some "Reactivity no longer needs Vue.set" },
    { Rule.ofPattern "before-destroy" "\\bbeforeDestroy\\s*\\(" with
      kind := .regex
      message := some "beforeDestroy is renamed in Vue 3"
      replacement := some "beforeUnmount(" },
    { Rule.ofPattern "listeners" "$listeners" with
      message := some "$listeners was merged into $attrs in Vue 3"
      replacement := some "$attrs" }]
  extra := []

/-- All built-in sets in the order of their names. -/
def builtIn : List RuleSet := [javascript, lodash, node, react, vue]

end ScriptSurvey.RuleSet
