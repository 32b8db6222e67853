/-
**The templates that come with the library.**

Main definitions:

* `EntryTemplates.Builtin.content` — the text of the template for a framework and a style;
* `EntryTemplates.Builtin.description` — its description;
* `EntryTemplates.Builtin.template` — the whole record.
-/

import EntryTemplates.Template

set_option relaxedAutoImplicit false
set_option autoImplicit false

namespace EntryTemplates.Builtin

/-- The template for Catch2 where the framework provides `main` itself. -/
def catch2Auto : String :=
  Text.ofLines [
    "#include <catch2/catch_test_macros.hpp>",
    "",
    "template<typename T>",
    "T doubleIt(const T& item) \x7b",
    "  return item * 2;",
    "\x7d",
    "",
    "TEST_CASE( \"Can double things\", \"[doubling]\" ) \x7b",
    "  SECTION( \"Doubling\" ) \x7b",
    "    REQUIRE( doubleIt(2) == 4 );",
    "    REQUIRE( doubleIt(3.0) == 3.0 * 2 );",
    "    REQUIRE( doubleIt(5.0) == 5.0 * 2 );",
    "  \x7d",
    "\x7d"
  ]

/-- The template for Catch2 where the framework leaves `main` to the template. -/
def catch2Custom : String :=
  Text.ofLines [
    "#include <catch2/catch_session.hpp>",
    "#include <catch2/catch_test_macros.hpp>",
    "",
    "// This is one of several main function examples from the catch2 docs page:",
    "// https://github.com/catchorg/Catch2/blob/devel/docs/own-main.md",
    "int main(int argc, char* argv[]) \x7b",
    "  Catch::Session session; // There must be exactly one instance",
    "",
    "  // writing to session.configData() here sets defaults",
    "  // this is the preferred way to set them",
    "",
    "  int returnCode = session.applyCommandLine( argc, argv );",
    "  if( returnCode != 0 ) // Indicates a command line error",
    "        return returnCode;",
    "",
    "  // writing to session.configData() or session.Config() here",
    "  // overrides command line args",
    "  // only do this if you know you need to",
    "",
    "  int numFailed = session.run();",
    "",
    "  // numFailed is clamped to 255 as some unices only use the lower 8 bits.",
    "  // This clamping has already been applied, so just return it here",
    "  // You can also do any post run clean-up here",
    "  return numFailed;",
    "\x7d",
    "",
    "template<typename T>",
    "T doubleIt(const T& item) \x7b",
    "  return item * 2;",
    "\x7d",
    "",
    "TEST_CASE( \"Can double things\", \"[doubling]\" ) \x7b",
    "  SECTION( \"Doubling\" ) \x7b",
    "    REQUIRE( doubleIt(2) == 4 );",
    "    REQUIRE( doubleIt(3.0) == 3.0 * 2 );",
    "    REQUIRE( doubleIt(5.0) == 5.0 * 2 );",
    "  \x7d",
    "\x7d"
  ]

/-- The template for doctest where the framework provides `main` itself. -/
def doctestAuto : String :=
  Text.ofLines [
    "#define DOCTEST_CONFIG_IMPLEMENT_WITH_MAIN",
    "#include \"doctest/doctest.h\"",
    "",
    "// If testing an executable, all code and dependencies are already included in this test by default.",
    "// In any case, just include any headers from the project as usual.",
    "",
    "// NOTE: When defining tests in other files, just #include \"doctest/doctest.h\" on its own.",
    "// Don't add another DOCTEST_CONFIG_IMPLEMENT_WITH_MAIN define.",
    "",
    "template<typename T>",
    "T doubleIt(const T& item) \x7b",
    "  return item * 2;",
    "\x7d",
    "",
    "TEST_CASE( \"Can numbers be doubled\" ) \x7b",
    "  CHECK(doubleIt(2.0) == 4.0);",
    "  CHECK(doubleIt(3) == 6);",
    "\x7d"
  ]

/-- The template for doctest where the framework leaves `main` to the template. -/
def doctestCustom : String :=
  Text.ofLines [
    "// This is a slightly modified version of the example main entrypoint from the docs:",
    "// https://github.com/doctest/doctest/blob/master/doc/markdown/main.md",
    "",
    "#define DOCTEST_CONFIG_IMPLEMENT",
    "#include \"doctest/doctest.h\"",
    "",
    "int main(int argc, char** argv) \x7b",
    "  doctest::Context context;",
    "",
    "  // Filter and option reference is here:",
    "  // https://github.com/doctest/doctest/blob/master/doc/markdown/commandline.md",
    "",
    "  // Example defaults",
    "  context.addFilter(\"test-case-exclude\", \"*math*\"); // exclude test cases with \"math\" in their name",
    "  context.setOption(\"abort-after\", 5); // stop test execution after 5 failed assertions",
    "  context.setOption(\"order-by\", \"name\"); // sort the test cases by their name",
    "",
    "  context.applyCommandLine(argc, argv);",
    "",
    "  // Example overrides",
    "  context.setOption(\"no-breaks\", true); // don't break in the debugger when assertions fail",
    "",
    "  // Run the test using the configured context",
    "  int testResultCode = context.run();",
    "",
    "  if(context.shouldExit()) // important - query flags (and --exit) rely on the user doing this",
    "    return testResultCode; // propagate the result of the tests",
    "  ",
    "  int programReturnCode = 0;",
    "  // Here, the \"rest of the program\" can be run. ",
    "  ",
    "  return testResultCode + programReturnCode; // the result from doctest is propagated here as well",
    "\x7d",
    "",
    "// If testing an executable, all code and dependencies are already included in this test by default.",
    "// In any case, just include any headers from the project as usual.",
    "",
    "// NOTE: When defining tests in other files, just #include \"doctest/doctest.h\" on its own.",
    "// Don't add another DOCTEST_CONFIG_IMPLEMENT define.",
    "",
    "template<typename T>",
    "T doubleIt(const T& item) \x7b",
    "  return item * 2;",
    "\x7d",
    "",
    "TEST_CASE( \"Can numbers be doubled\" ) \x7b",
    "  CHECK(doubleIt(2.0) == 4.0);",
    "  CHECK(doubleIt(3) == 6);",
    "\x7d"
  ]

/-- The template for GoogleTest where the framework provides `main` itself. -/
def googletestAuto : String :=
  Text.ofLines [
    "#include \"gtest/gtest.h\"",
    "",
    "template<typename T>",
    "T doubleIt(const T& item) \x7b",
    "  return item * 2;",
    "\x7d",
    "",
    "TEST(HelloTest, CanDoubleThings) \x7b",
    "  EXPECT_EQ(doubleIt(2), 4);",
    "  EXPECT_EQ(doubleIt(3.0), 3.0 * 2);",
    "\x7d"
  ]

/-- The template for GoogleTest where the framework leaves `main` to the template. -/
def googletestCustom : String :=
  Text.ofLines [
    "#include \"gtest/gtest.h\"",
    "",
    "// Example main is found in the googletest primer page:",
    "// https://google.github.io/googletest/primer.html#writing-the-main-function",
    "",
    "int main(int argc, char** argv) \x7b",
    "  testing::InitGoogleTest(&argc, argv);",
    "  return RUN_ALL_TESTS();",
    "\x7d",
    "",
    "template<typename T>",
    "T doubleIt(const T& item) \x7b",
    "  return item * 2;",
    "\x7d",
    "",
    "TEST(HelloTest, CanDoubleThings) \x7b",
    "  EXPECT_EQ(doubleIt(2), 4);",
    "  EXPECT_EQ(doubleIt(3.0), 3.0 * 2);",
    "\x7d"
  ]

/-- **The text of the template for a framework and a style.** -/
def content : Framework → Style → String
  | .catch2, .autoMain => catch2Auto
  | .catch2, .customMain => catch2Custom
  | .doctest, .autoMain => doctestAuto
  | .doctest, .customMain => doctestCustom
  | .googletest, .autoMain => googletestAuto
  | .googletest, .customMain => googletestCustom

/-- The description of the template for a framework and a style. -/
def description : Framework → Style → String
  | .catch2, .autoMain => "Catch2 测试 (使用 Catch2WithMain 提供的 main)"
  | .catch2, .customMain => "Catch2 测试 (自定义 Catch::Session main)"
  | .doctest, .autoMain => "doctest 测试 (DOCTEST_CONFIG_IMPLEMENT_WITH_MAIN)"
  | .doctest, .customMain => "doctest 测试 (自定义 doctest::Context main)"
  | .googletest, .autoMain => "GoogleTest 测试 (使用 gtest_main)"
  | .googletest, .customMain => "GoogleTest 测试 (自定义 InitGoogleTest main)"

/-- The template for a framework and a style. -/
def template (f : Framework) (s : Style) : Template :=
  { framework := f, style := s, content := content f s, description := description f s }

end EntryTemplates.Builtin
